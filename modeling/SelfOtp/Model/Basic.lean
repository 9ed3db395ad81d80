import Mathlib.Data.Rat.Floor
import SelfOtp.Lib.Rounding

/-! Values shared by every module: identifiers, configuration, texts, API errors. -/
namespace SelfOtp

/-- A `gen_random_uuid()` primary key; the database hands out a fresh one for every row. -/
abbrev Id := ℕ

/-- `Date.now()`, in milliseconds. -/
abbrev Millis := ℕ

/-- `Date.now() / 1000`. -/
def seconds (now : Millis) : ℚ := (now : ℚ) / 1000

theorem seconds_mono {now later : Millis} (le : now ≤ later) : seconds now ≤ seconds later :=
  div_le_div_of_nonneg_right (Nat.cast_le.mpr le) (by decide)

theorem seconds_le_iff {now later : Millis} : seconds now ≤ seconds later ↔ now ≤ later := by
  unfold seconds
  rw [div_le_div_iff_of_pos_right (by decide), Nat.cast_le]

theorem seconds_injective : Function.Injective seconds := fun _ _ same =>
  le_antisymm (seconds_le_iff.mp same.le) (seconds_le_iff.mp same.ge)

theorem seconds_nonneg (now : Millis) : 0 ≤ seconds now := div_nonneg (Nat.cast_nonneg now) (by decide)

theorem seconds_add (now : Millis) (n : ℕ) : seconds (now + 1000 * n) = seconds now + n := by
  have thousand : ((1000 : ℕ) : ℚ) = 1000 := rfl
  rw [seconds, Nat.cast_add, Nat.cast_mul, thousand, add_div, mul_div_cancel_left₀ _ (by decide)]
  rfl

/-- The part of `env` that the modelled code reads. `hmac` is HMAC-SHA256 under `PEPPER`
and `sha256` is SHA-256, both in hexadecimal. -/
structure Env where
  otpCooldownSeconds : ℚ
  otpMaxVerifyAttempts : ℕ
  otpCreditCost : ℚ
  defaultApiKeyRateLimitRps : ℕ
  pepper : String
  hmac : String → String
  sha256 : String → String

/-! ### Texts -/

/-- Characters that `String.prototype.trim` removes. -/
def isJsSpace (c : Char) : Bool :=
  let n := c.toNat
  (9 ≤ n && n ≤ 13) || n == 0x20 || n == 0xA0 || n == 0x1680 || (0x2000 ≤ n && n ≤ 0x200A) ||
    n == 0x2028 || n == 0x2029 || n == 0x202F || n == 0x205F || n == 0x3000 || n == 0xFEFF

def trim (s : String) : String :=
  String.ofList ((s.toList.dropWhile isJsSpace).reverse.dropWhile isJsSpace).reverse

/-- The last `k` hexadecimal digits of `n`. -/
def hexDigits : ℕ → ℕ → List Char
  | 0, _ => []
  | k + 1, n => hexDigits k (n / 16) ++ [Nat.digitChar (n % 16)]

/-- A `[0-9a-f]` character under the regular-expression flag `i`. -/
def isHexDigit (c : Char) : Bool :=
  ('0' ≤ c && c ≤ '9') || ('a' ≤ c && c ≤ 'f') || ('A' ≤ c && c ≤ 'F')

/-- Hexadecimal blocks of the given lengths, separated by dashes, up to the end of the text. -/
def matchesBlocks : List ℕ → List Char → Bool
  | [], _ => false
  | [n], cs => cs.length == n && cs.all isHexDigit
  | n :: ns, cs =>
    (cs.take n).length == n && (cs.take n).all isHexDigit && (cs.drop n).head? == some '-' &&
      matchesBlocks ns (cs.drop (n + 1))

/-- `/^[0-9a-f]{8}-[0-9a-f]{4}-[0-9a-f]{4}-[0-9a-f]{4}-[0-9a-f]{12}$/i`. -/
def uuidRegex (s : String) : Bool := matchesBlocks [8, 4, 4, 4, 12] s.toList

/-- The text form of a primary key. -/
def uuidText (id : Id) : String :=
  String.ofList (hexDigits 8 (id / 16 ^ 24) ++ '-' :: hexDigits 4 (id / 16 ^ 20) ++
    '-' :: hexDigits 4 (id / 16 ^ 16) ++ '-' :: hexDigits 4 (id / 16 ^ 12) ++
    '-' :: hexDigits 12 id)

def lowerHex (c : Char) : Char := if 'A' ≤ c && c ≤ 'Z' then Char.ofNat (c.toNat + 32) else c

/-- What a PostgreSQL `uuid` column holds for a uuid text: the case of its digits is not kept,
in storing or in comparing. -/
def uuidColumn (s : String) : String := String.ofList (s.toList.map lowerHex)

/-! ### Errors -/

/-- `AppError`; `details` lists the fields of its details object. -/
structure AppError where
  statusCode : ℕ
  message : String
  code : String
  details : List (String × ℚ)
  deriving DecidableEq

def ForbiddenError (message code : String) : AppError := ⟨403, message, code, []⟩

def RateLimitError (message code : String) : AppError := ⟨429, message, code, []⟩

def UnauthorizedError (message code : String) : AppError := ⟨401, message, code, []⟩

def NotFoundError (message code : String) : AppError := ⟨404, message, code, []⟩

end SelfOtp

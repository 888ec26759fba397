/-! Written numbers: the digits of a number in a base, and the reader of unsigned
numbers that command line arguments use. -/
namespace SealedRun

/-- Digits in `base`, highest first; zero has one digit. Bases below two give one digit. -/
def digits (base n : Nat) : List Nat :=
  if _h : n < base ∨ base < 2 then [n] else digits base (n / base) ++ [n % base]
termination_by n
decreasing_by
  have hb : 1 < base := by omega
  exact Nat.div_lt_self (by omega) hb

theorem digits_ne_nil (base n : Nat) : digits base n ≠ [] := by
  rw [digits]
  split <;> simp

def ofDigits (base : Nat) (ds : List Nat) : Nat := ds.foldl (fun n d => base * n + d) 0

theorem ofDigits_append (base : Nat) (ds : List Nat) (d : Nat) :
    ofDigits base (ds ++ [d]) = base * ofDigits base ds + d := by
  simp [ofDigits]

theorem ofDigits_digits (base n : Nat) : ofDigits base (digits base n) = n := by
  fun_induction digits base n with
  | case1 n _ => simp [ofDigits]
  | case2 n _ ih => rw [ofDigits_append, ih, Nat.div_add_mod]

theorem digits_lt {base n : Nat} (hb : 2 ≤ base) : ∀ d ∈ digits base n, d < base := by
  fun_induction digits base n with
  | case1 n h => intro d hd; simp at hd; omega
  | case2 n h ih =>
    intro d hd
    rcases List.mem_append.1 hd with hd | hd
    · exact ih d hd
    · simp at hd; subst hd; exact Nat.mod_lt _ (by omega)

/-- Lowercase beyond nine. -/
def digitChar (d : Nat) : Char :=
  if d < 10 then Char.ofNat (48 + d) else Char.ofNat (87 + d)

/-- The value of a digit of either case in bases up to sixteen. -/
def digitValue? (base : Nat) (c : Char) : Option Nat :=
  let d :=
    if '0' ≤ c ∧ c ≤ '9' then c.toNat - 48
    else if 'a' ≤ c ∧ c ≤ 'f' then c.toNat - 87
    else if 'A' ≤ c ∧ c ≤ 'F' then c.toNat - 55
    else base
  if d < base then some d else none

def decimal (n : Nat) : String := String.ofList ((digits 10 n).map digitChar)

/-- Two digits to a byte. -/
def hexText (bs : List UInt8) : String :=
  String.ofList (bs.flatMap fun b => [digitChar (b.toNat / 16), digitChar (b.toNat % 16)])

inductive NumberError
  | empty
  | invalidDigit
  | tooLarge
deriving DecidableEq, Repr

def NumberError.message : NumberError → String
  | .empty => "cannot parse integer from empty string"
  | .invalidDigit => "invalid digit found in string"
  | .tooLarge => "number too large to fit in target type"

/-- Reads on from the value `n`. The first fault decides: a digit that carries the value to
`limit` is refused before anything behind it is looked at. -/
def readDigits (base limit : Nat) : Nat → List Char → Except NumberError Nat
  | n, [] => .ok n
  | n, c :: r =>
    match digitValue? base c with
    | none => .error .invalidDigit
    | some d => if base * n + d < limit then readDigits base limit (base * n + d) r else .error .tooLarge

/-- An unsigned number below `limit`, with at most one plus sign in front. -/
def readNumber (base limit : Nat) : List Char → Except NumberError Nat
  | [] => .error .empty
  | ['+'] => .error .invalidDigit
  | '+' :: r => readDigits base limit 0 r
  | cs => readDigits base limit 0 cs

end SealedRun

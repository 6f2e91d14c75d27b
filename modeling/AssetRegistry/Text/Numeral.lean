import AssetRegistry.Text.Bytes

namespace AssetRegistry.Text

def digitValue? (c : Char) : Option Nat :=
  if '0' ≤ c && c ≤ '9' then some (c.toNat - 48) else none

/-- The number written by one or more decimal digits. -/
def digits? : List Char → Option Nat
  | [] => none
  | cs => cs.foldlM (fun n c => (digitValue? c).map (n * 10 + ·)) 0

/-- A number from 0 to `limit`; a plus sign may stand before it, a minus sign never. -/
def natural? (limit : Nat) (s : String) : Option Nat := do
  let n ← match s.toList with
    | '+' :: cs => digits? cs
    | cs => digits? cs
  if n ≤ limit then some n else none

def int64? (s : String) : Option Int64 := do
  let n : Int ← match s.toList with
    | '+' :: cs => (digits? cs).map Int.ofNat
    | '-' :: cs => (digits? cs).map fun n => -Int.ofNat n
    | cs => (digits? cs).map Int.ofNat
  if Int64.minValue.toInt ≤ n && n ≤ Int64.maxValue.toInt then some (Int64.ofInt n) else none

/-- The two spellings of a switch. -/
def flag? (s : String) : Option Bool :=
  if s = "true" then some true else if s = "false" then some false else none

def ofNat (n : Nat) : String := .ofList (Nat.toDigits 10 n)

def ofInt : Int → String
  | .ofNat n => ofNat n
  | .negSucc n => "-" ++ ofNat (n + 1)

def padded (width n : Nat) : String :=
  let digits := Nat.toDigits 10 n
  .ofList (List.replicate (width - digits.length) '0' ++ digits)

theorem digitValue?_digitChar {d : Nat} (small : d < 10) : digitValue? d.digitChar = some d := by
  have all : ∀ d < 10, digitValue? (Nat.digitChar d) = some d := by decide
  exact all d small

theorem digits?_cons (c : Char) (cs : List Char) :
    digits? (c :: cs) = (c :: cs).foldlM (fun n c => (digitValue? c).map (n * 10 + ·)) 0 := rfl

theorem digits?_append {cs : List Char} {n d : Nat} (reads : digits? cs = some n) (small : d < 10) :
    digits? (cs ++ [d.digitChar]) = some (n * 10 + d) := by
  cases cs with
  | nil => cases reads
  | cons c cs =>
    rw [digits?_cons] at reads
    rw [List.cons_append, digits?_cons, ← List.cons_append, List.foldlM_append, reads]
    simp [digitValue?_digitChar small]

/-- What is written of a number in digits reads as the number. -/
theorem digits?_toDigits (n : Nat) : digits? (Nat.toDigits 10 n) = some n := by
  induction n using Nat.strongRecOn with
  | _ n ih =>
    by_cases small : n < 10
    · rw [Nat.toDigits_of_lt_base small]
      simp [digits?, digitValue?_digitChar small]
    · rw [Nat.toDigits_of_base_le (by decide) (by omega)]
      rw [digits?_append (ih (n / 10) (by omega)) (Nat.mod_lt n (by decide))]
      congr 1
      omega

end AssetRegistry.Text

import AssetRegistry.Proofs.TokenTimes

namespace AssetRegistry

namespace Json
open Outcome

/-- The value of a key is read as its field's, or passed over if no field has it. -/
def ReadAs (depth : Nat) (key : String) (cs rest : List Char) : Option Field → Prop
  | some f => ∃ v, readUnder key (f.decoder.read depth) cs = .ok v rest
  | none => readUnder key skipValue cs = .ok () rest

theorem ReadAs.unique {depth : Nat} {key : String} {cs rest rest' : List Char} {field : Option Field}
    (reads : ReadAs depth key cs rest field) (reads' : ReadAs depth key cs rest' field) : rest = rest' := by
  cases field with
  | none => exact (Outcome.ok.inj (reads.symm.trans reads')).2
  | some f =>
    obtain ⟨v, reads⟩ := reads
    obtain ⟨v', reads'⟩ := reads'
    exact (Outcome.ok.inj (reads.symm.trans reads')).2

end Json

open Json Outcome

namespace Issuer
variable {i : Issuer} {token : String} {α : Type} {d : Decoder α} {now : Option Instant}

end Issuer

end AssetRegistry

import AssetRegistry.Proofs.TidyTexts
import AssetRegistry.Proofs.TokenTimes
import AssetRegistry.Web.App

namespace AssetRegistry.Text

/-- A character of ASCII that shows something. -/
def isVisible (c : Char) : Bool := 0x21 ≤ c.toNat && c.toNat < 0x7F

theorem isVisible_iff {c : Char} : isVisible c ↔ 0x21 ≤ c.toNat ∧ c.toNat < 0x7F := by
  unfold isVisible
  rw [Bool.and_eq_true, decide_eq_true_eq, decide_eq_true_eq]

theorem not_blank_of_isVisible {c : Char} (visible : isVisible c) : isBlank c = false := by
  obtain ⟨lower, upper⟩ := isVisible_iff.1 visible
  have ranges : ∀ n < 0x7F, 0x21 ≤ n → inRanges blankRanges n = false := by decide
  exact ranges _ upper lower

theorem trim_of_visible {s : String} (visible : ∀ c ∈ s.toList, isVisible c) : trim s = s := by
  have filled : ∀ c ∈ s.toList, isBlank c = false := fun c member => not_blank_of_isVisible (visible c member)
  have first : ∀ c ∈ s.toList.head?, isBlank c = false := fun c isFirst => filled c (List.mem_of_head? isFirst)
  have last : ∀ c ∈ s.toList.reverse.head?, isBlank c = false := fun c isLast =>
    filled c (List.mem_reverse.1 (List.mem_of_head? isLast))
  rw [trim, trimChars, dropWhile_of_first first, dropWhile_of_first last, List.reverse_reverse, String.ofList_toList]

theorem isVisible_base64Char (n : Nat) : isVisible (base64Char n) := by
  have all : ∀ n < 64, isVisible (base64Char n) := by decide +kernel
  by_cases small : n < 64
  · exact all n small
  · have last : base64Char n = '_' := by
      unfold base64Char
      rw [if_neg (by omega), if_neg (by omega), if_neg (by omega), if_neg (by omega)]
    rw [last]
    decide

theorem isVisible_toBase64 (bytes : Bytes) : ∀ c ∈ toBase64 bytes, isVisible c := by
  induction bytes using toBase64.induct with
  | case1 a b c rest ih => simpa [toBase64, isVisible_base64Char] using ih
  | case2 a b => simp [toBase64, isVisible_base64Char]
  | case3 a => simp [toBase64, isVisible_base64Char]
  | case4 => simp [toBase64]

end AssetRegistry.Text

namespace AssetRegistry

/-- A signed token is visible text. -/
theorem Issuer.isVisible_sign (i : Issuer) (claims : Json) : ∀ c ∈ (i.sign claims).toList, Text.isVisible c := by
  have part (bytes : Text.Bytes) := Text.isVisible_toBase64 bytes
  have point : Text.isVisible '.' := by decide
  unfold Issuer.sign
  simp only [String.toList_ofList, List.mem_append, List.mem_cons]
  rintro c ((member | rfl | member) | rfl | member)
  · exact part _ c member
  · exact point
  · exact part _ c member
  · exact point
  · exact part _ c member

end AssetRegistry

namespace AssetRegistry.Web

/-- The request's header holds a token that is accepted at the time of the request and makes these claims. -/
def App.Bears (app : App) (r : Request) (claims : AccessClaims) : Prop :=
  ∃ bytes token, r.header? "authorization" = some bytes ∧ headerText? bytes = some ("Bearer " ++ token) ∧
    app.desk.issuer.verifyAccess app.desk.now (Text.trim token) = .ok claims

/-- A token that is found in the header and accepted makes a bearer. -/
theorem bears_of_bearerToken {app : App} {r : Request} {token : String} {claims : AccessClaims}
    (found : bearerToken r = .ok token) (accepted : app.desk.issuer.verifyAccess app.desk.now token = .ok claims) :
    app.Bears r claims := by
  unfold bearerToken at found
  split at found
  · cases found
  next bytes header =>
    split at found
    · cases found
    next value valid =>
      split at found
      next marked =>
        obtain ⟨rest, shape⟩ := List.isPrefixOf_iff_prefix.1 marked
        dsimp only at found
        split at found
        · cases found
        obtain rfl := Except.ok.inj found
        refine ⟨bytes, .ofList rest, header, ?_, ?_⟩
        · rw [valid, show value = "Bearer " ++ .ofList rest by
            rw [← String.toList_inj, String.toList_append, ← shape, String.toList_ofList (l := rest)]; rfl]
        · rw [← shape, List.drop_left] at accepted
          exact accepted
      · cases found

/-- Whoever is let in bears claims, in a role that the route allows. -/
theorem bears_of_letIn {app : App} {r : Request} {route : GuardedRoute} {actor : Actor}
    (admitted : letIn app r route = .ok actor) :
    ∃ claims, app.Bears r claims ∧ actor = ⟨claims.userId, claims.role⟩ ∧ claims.role ∈ route.roles := by
  obtain ⟨known, authentic, admitted⟩ := ok_of_bind admitted
  obtain ⟨_, allowed, admitted⟩ := ok_of_bind admitted
  obtain rfl : known = actor := Except.ok.inj admitted
  obtain ⟨token, found, authentic⟩ := ok_of_bind authentic
  obtain ⟨claims, accepted, authentic⟩ := ok_of_bind authentic
  obtain rfl := Except.ok.inj authentic
  have bears : app.Bears r claims := bears_of_bearerToken (ok_of_mapError found) (ok_of_mapError accepted)
  refine ⟨claims, bears, rfl, ?_⟩
  unfold authorize at allowed
  split at allowed
  next held => exact List.contains_iff_mem.1 held
  · cases allowed

theorem utf8_of_plain {s : String} (plain : ∀ c ∈ s.toList, 0x20 ≤ c.toNat ∧ c.toNat < 0x7F) :
    Text.utf8 s = s.toList.map fun c => UInt8.ofNat c.toNat := by
  have single : ∀ c ∈ s.toList, String.utf8EncodeChar c = [UInt8.ofNat c.toNat] := by
    intro c member
    have small : c.toNat ≤ 127 := Nat.le_of_lt_succ (Nat.lt_succ_of_lt (plain c member).2)
    exact if_pos small
  unfold Text.utf8
  rw [List.flatMap_def, List.map_congr_left single, ← List.flatMap_def, List.map_eq_flatMap]

/-- A header of visible characters and blanks is read as the text that it was. -/
theorem headerText?_utf8 {s : String} (plain : ∀ c ∈ s.toList, 0x20 ≤ c.toNat ∧ c.toNat < 0x7F) :
    headerText? (Text.utf8 s) = some s := by
  have byte : ∀ c ∈ s.toList, (UInt8.ofNat c.toNat).toNat = c.toNat := by
    intro c member
    rw [UInt8.toNat_ofNat']
    exact Nat.mod_eq_of_lt (by have := plain c member; omega)
  have allowed : (s.toList.map fun c => UInt8.ofNat c.toNat).all fun b => b = 9 || (32 ≤ b && b < 127) := by
    rw [List.all_map, List.all_eq_true]
    intro c member
    have bounds := plain c member
    have lower : (32 : UInt8) ≤ UInt8.ofNat c.toNat := by
      rw [UInt8.le_iff_toNat_le, byte c member]
      exact bounds.1
    have upper : UInt8.ofNat c.toNat < 127 := by
      rw [UInt8.lt_iff_toNat_lt, byte c member]
      exact bounds.2
    simp [lower, upper]
  have characters : ((s.toList.map fun c => UInt8.ofNat c.toNat).map fun b => Char.ofNat b.toNat) = s.toList := by
    rw [List.map_map]
    refine (List.map_congr_left fun c member => ?_).trans (List.map_id _)
    show Char.ofNat (UInt8.ofNat c.toNat).toNat = c
    rw [byte c member, Char.ofNat_toNat]
  unfold headerText?
  rw [utf8_of_plain plain, if_pos allowed, characters, String.ofList_toList]

variable {app : App} {r : Request} {claims : AccessClaims}

/-- The token of a header is what stands behind the mark, without blanks around it. -/
theorem bearerToken_of_header {bytes : Text.Bytes} {token : String} (header : r.header? "authorization" = some bytes)
    (text : headerText? bytes = some ("Bearer " ++ token)) (filled : Text.trim token ≠ "") :
    bearerToken r = .ok (Text.trim token) := by
  have marked : ("Bearer " ++ token).toList = bearerMark ++ token.toList := String.toList_append
  have begins : bearerMark.isPrefixOf ("Bearer " ++ token).toList := by
    rw [marked, List.isPrefixOf_iff_prefix]
    exact List.prefix_append _ _
  have rest : ("Bearer " ++ token).toList.drop bearerMark.length = token.toList := by rw [marked, List.drop_left]
  unfold bearerToken
  rw [header]
  dsimp only
  rw [text]
  dsimp only
  rw [if_pos begins, rest, String.ofList_toList, if_neg (by simpa using filled)]

/-- Who bears accepted claims may act in their role wherever the role is allowed. -/
theorem letIn_of_bears {route : GuardedRoute} (bears : app.Bears r claims) (allowed : claims.role ∈ route.roles) :
    letIn app r route = .ok ⟨claims.userId, claims.role⟩ := by
  obtain ⟨bytes, token, header, text, accepted⟩ := bears
  have filled : Text.trim token ≠ "" := by
    intro blank
    have refused : app.desk.issuer.verifyAccess app.desk.now "" = .error (.invalidToken "InvalidToken") := rfl
    rw [blank, refused] at accepted
    cases accepted
  have authentic : authenticate app.desk.issuer app.desk.now r = .ok ⟨claims.userId, claims.role⟩ := by
    unfold authenticate
    rw [mapError_eq_ok_iff.2 (bearerToken_of_header header text filled), ok_bind, mapError_eq_ok_iff.2 accepted,
      ok_bind]
    rfl
  have authorized : authorize route.roles ⟨claims.userId, claims.role⟩ = .ok () :=
    if_pos (List.contains_iff_mem.2 allowed)
  unfold letIn
  rw [authentic, ok_bind, authorized]
  rfl

/-- A request without a body whose header carries a token. -/
def Request.carrying (method target token : String) : Request where
  method
  target
  headers := [("Authorization", Text.utf8 ("Bearer " ++ token))]

theorem Request.header?_carrying (method target token : String) :
    (carrying method target token).header? "authorization" = some (Text.utf8 ("Bearer " ++ token)) := by
  have named : "Authorization".toList.map Char.toLower = "authorization".toList := by decide
  simp only [header?, carrying, List.find?_cons, named, decide_true, Option.map_some]

/-- A token of the issuer's own makes the claims that were signed, until they expire. -/
theorem bears_of_sign (method target : String) (isAccess : claims.kind = .access) (future : 0 ≤ claims.expires.toInt)
    (timely : app.desk.now.seconds - 60 ≤ claims.expires.toInt) :
    app.Bears (.carrying method target (app.desk.issuer.sign claims.toJson)) claims := by
  have visible := app.desk.issuer.isVisible_sign claims.toJson
  have plain : ∀ c ∈ ("Bearer " ++ app.desk.issuer.sign claims.toJson).toList, 0x20 ≤ c.toNat ∧ c.toNat < 0x7F := by
    intro c member
    rw [String.toList_append, List.mem_append] at member
    obtain marked | signed := member
    · have mark : "Bearer ".toList.all fun c => 0x20 ≤ c.toNat ∧ c.toNat < 0x7F := by decide
      exact of_decide_eq_true (List.all_eq_true.1 mark c marked)
    · have bounds := Text.isVisible_iff.1 (visible c signed)
      omega
  refine ⟨_, _, Request.header?_carrying method target _, headerText?_utf8 plain, ?_⟩
  rw [Text.trim_of_visible visible, Issuer.verifyAccess_sign rfl isAccess future, if_pos timely]

end AssetRegistry.Web

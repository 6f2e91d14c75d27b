import AssetRegistry.Proofs.Documents
import AssetRegistry.Token.Issuer

namespace AssetRegistry
open Json

theorem ofJson_uuid (u : Uuid) : Decoder.uuid.ofJson u.toJson = .ok u := by
  unfold Decoder.uuid Decoder.written Uuid.toJson
  dsimp only
  rw [Uuid.parse_toText]

theorem ofJson_role (role : Role) : (Decoder.label (α := Role)).ofJson (Vocabulary.toJson role) = .ok role := by
  cases role <;> rfl

theorem ofJson_kind (kind : TokenKind) :
    (Decoder.label (α := TokenKind)).ofJson (Vocabulary.toJson kind) = .ok kind := by
  cases kind <;> rfl

theorem ofJson_int64 (n : Int64) : Decoder.int64.ofJson (.whole n.toInt) = .ok n := by
  unfold Decoder.int64 Decoder.wholeWithin
  dsimp only
  rw [if_pos, Int64.ofInt_toInt]
  rw [Bool.and_eq_true, decide_eq_true_eq, decide_eq_true_eq]
  exact ⟨n.minValue_le_toInt, n.toInt_le⟩

theorem plain_int64 (n : Int64) : Plain (.whole n.toInt) :=
  .whole n.minValue_le_toInt (Int.lt_of_le_of_lt n.toInt_le (by decide))

/-- The claims of an access token read back from their value. -/
theorem AccessClaims.ofJson_toJson (c : AccessClaims) : AccessClaims.decoder.ofJson c.toJson = .ok c := by
  have spells : Spells AccessClaims.record.fields
      [("user_id", c.userId.toJson), ("role", Vocabulary.toJson c.role), ("kind", Vocabulary.toJson c.kind),
       ("exp", .whole c.expires.toInt), ("iat", .whole c.issued.toInt)]
      (c.userId, c.role, c.kind, c.expires, c.issued, ()) := by
    refine .required (ofJson_uuid c.userId) (by decide) ?_
    refine .required (ofJson_role c.role) (by decide) ?_
    refine .required (ofJson_kind c.kind) (by decide) ?_
    refine .required (ofJson_int64 c.expires) (by decide) ?_
    exact .required (ofJson_int64 c.issued) (by decide) .nil
  exact Record.ofJson_of_spells spells

theorem RefreshClaims.ofJson_toJson (c : RefreshClaims) : RefreshClaims.decoder.ofJson c.toJson = .ok c := by
  have spells : Spells RefreshClaims.record.fields
      [("user_id", c.userId.toJson), ("kind", Vocabulary.toJson c.kind), ("exp", .whole c.expires.toInt),
       ("iat", .whole c.issued.toInt)]
      (c.userId, c.kind, c.expires, c.issued, ()) := by
    refine .required (ofJson_uuid c.userId) (by decide) ?_
    refine .required (ofJson_kind c.kind) (by decide) ?_
    refine .required (ofJson_int64 c.expires) (by decide) ?_
    exact .required (ofJson_int64 c.issued) (by decide) .nil
  exact Record.ofJson_of_spells spells

theorem faithful_time : Decoder.Faithful ⟨fun j => .ok (timeOf? j), fun _ cs => readTime cs⟩ := by
  intro depth j cs a rest text given
  obtain rfl := Except.ok.inj given
  have value := text.readAny ofEntries 0
  obtain ⟨c, tail, rfl, filled, others⟩ := text.begins
  show readTime _ = _
  unfold readTime
  rw [skipSpace_cons filled]
  split
  next starts =>
    obtain ⟨rfl, -⟩ := List.cons.inj starts
    exact absurd (by simp) others
  next starts =>
    obtain ⟨rfl, rfl⟩ := List.cons.inj starts
    rw [if_neg fun brace => others (by simp [brace])]
    exact congrArg (fun o => forgive (o.map timeOf?)) value
  next starts => cases starts

/-- What every token is checked for reads no key of the claims but the expiry. -/
theorem Checked.readDocument_print {entries : List (String × Json)} {expires : Option Nat}
    (plain : ∀ entry ∈ entries, Plain entry.2) (keys : entries.map Prod.fst ⊆ ["user_id", "role", "kind", "exp", "iat"])
    (reads : Checked.decoder.ofJson (.object entries) = .ok ⟨expires, none⟩) :
    Checked.decoder.readDocument (Json.object entries).print = .ok ⟨expires, none⟩ := by
  have unused {name : String} (other : name ∉ ["user_id", "role", "kind", "exp", "iat"]) :
      name ∉ entries.map Prod.fst := fun member => other (keys member)
  refine Record.readDocument_print plain ?_ reads
  -- The reader of the subject keeps a string that the value does not, but claims have no subject.
  simp only [Checked.record, List.forall_mem_cons]
  refine ⟨fun _ => faithful_time, fun named => ?_, fun named => ?_, fun named => ?_, fun named => ?_, by simp⟩
  all_goals exact absurd named (unused (by decide))

/-- Printed claims are read as they were, and checked for nothing but their expiry. -/
theorem AccessClaims.readDocument_print (c : AccessClaims) :
    AccessClaims.decoder.readDocument c.toJson.print = .ok c ∧
      Checked.decoder.readDocument c.toJson.print = .ok ⟨timeOf? (.whole c.expires.toInt), none⟩ := by
  have plain : ∀ entry ∈ [("user_id", c.userId.toJson), ("role", Vocabulary.toJson c.role),
      ("kind", Vocabulary.toJson c.kind), ("exp", .whole c.expires.toInt), ("iat", .whole c.issued.toInt)],
      Plain entry.2 := by
    simp only [List.forall_mem_cons]
    exact ⟨.text _, .text _, .text _, plain_int64 _, plain_int64 _, by simp⟩
  refine ⟨Record.readDocument_print plain ?_ c.ofJson_toJson, Checked.readDocument_print plain (by simp) rfl⟩
  simp only [AccessClaims.record, List.forall_mem_cons]
  exact ⟨fun _ => Decoder.faithful_written _ _, fun _ => Decoder.faithful_label (α := Role),
    fun _ => Decoder.faithful_label (α := TokenKind), fun _ => Decoder.faithful_wholeWithin _ _ _ _,
    fun _ => Decoder.faithful_wholeWithin _ _ _ _, by simp⟩

theorem RefreshClaims.readDocument_print (c : RefreshClaims) :
    RefreshClaims.decoder.readDocument c.toJson.print = .ok c ∧
      Checked.decoder.readDocument c.toJson.print = .ok ⟨timeOf? (.whole c.expires.toInt), none⟩ := by
  have plain : ∀ entry ∈ [("user_id", c.userId.toJson), ("kind", Vocabulary.toJson c.kind),
      ("exp", .whole c.expires.toInt), ("iat", .whole c.issued.toInt)], Plain entry.2 := by
    simp only [List.forall_mem_cons]
    exact ⟨.text _, .text _, plain_int64 _, plain_int64 _, by simp⟩
  refine ⟨Record.readDocument_print plain ?_ c.ofJson_toJson, Checked.readDocument_print plain (by simp) rfl⟩
  simp only [RefreshClaims.record, List.forall_mem_cons]
  exact ⟨fun _ => Decoder.faithful_written _ _, fun _ => Decoder.faithful_label (α := TokenKind),
    fun _ => Decoder.faithful_wholeWithin _ _ _ _, fun _ => Decoder.faithful_wholeWithin _ _ _ _, by simp⟩

theorem readDocument_issuedHeader : headerDecoder.readDocument issuedHeader.print = .ok .hs256 := by
  refine Record.readDocument_print ?_ ?_ rfl
  · simp only [List.forall_mem_cons]
    exact ⟨.text _, .text _, by simp⟩
  · simp only [headerRecord, List.forall_mem_cons]
    refine ⟨fun _ => Decoder.Faithful.option (Decoder.faithful_written _ _), ?_⟩
    refine ⟨fun _ => Decoder.faithful_label (α := Algorithm), ?_⟩
    simp [Field.optional]

namespace Issuer

/-- The bytes of the claims of a token whose header and signature are good. -/
def contents (i : Issuer) (token : String) : Except Refusal Text.Bytes := do partBytes (← i.openToken token)

/-- To decode is to open the token, read its claims, and check them. -/
theorem decode_eq {α : Type} (i : Issuer) (now : Option Instant) (d : Decoder α) (token : String) :
    i.decode now d token = (do
      let bytes ← i.contents token
      let claims ← readPart d bytes
      check now (← readPart Checked.decoder bytes)
      pure claims) := by
  unfold decode contents
  cases i.openToken token <;> rfl

/-- Claims are checked for their expiry first, then for an audience, which must not be there. -/
theorem check_eq (now : Option Instant) (expires : Nat) (audience : Option Json) :
    check now ⟨some expires, audience⟩ =
      if now.any fun now => (expires : Int) < now.seconds - leeway then .error .expired
      else if audience.isSome then .error .foreignAudience else .ok () := by
  unfold check
  dsimp only
  split <;> split <;> rfl

variable {i j : Issuer}

theorem partBytes_encodePart (document : Json) : partBytes (encodePart document) = .ok (Text.utf8 document.toText) := by
  unfold partBytes encodePart
  rw [Text.ofBase64_toBase64]
  rfl

theorem readPart_utf8 {α : Type} {d : Decoder α} {document : Json} {a : α}
    (reads : d.readDocument document.print = .ok a) : readPart d (Text.utf8 document.toText) = .ok a := by
  unfold readPart
  rw [Text.ofUtf8?_utf8, Text.ofUtf8Lossy_utf8, toText, String.toList_ofList, reads]
  rfl

/-- Opening a token needs no more of its issuer than the secret. -/
theorem openToken_sign (same : j.secret = i.secret) (claims : Json) :
    j.openToken (i.sign claims) = .ok (encodePart claims) := by
  have parts : Text.splitLast '.' (i.sign claims).toList = some (encodePart issuedHeader ++ '.' :: encodePart claims,
      i.signature (encodePart issuedHeader ++ '.' :: encodePart claims)) := by
    unfold sign
    rw [String.toList_ofList]
    exact Text.splitLast_append _ (Text.point_not_mem_toBase64 _)
  have inner : Text.splitLast '.' (encodePart issuedHeader ++ '.' :: encodePart claims) =
      some (encodePart issuedHeader, encodePart claims) := Text.splitLast_append _ (Text.point_not_mem_toBase64 _)
  have signs (signed : List Char) : j.signature signed = i.signature signed := by
    unfold signature
    rw [same]
  unfold openToken
  rw [parts]
  dsimp only
  rw [inner]
  dsimp only
  rw [partBytes_encodePart, ok_bind, readPart_utf8 readDocument_issuedHeader, ok_bind, if_neg (by simp),
    if_neg (by simp [signs])]
  rfl

theorem contents_sign (same : j.secret = i.secret) (claims : Json) :
    j.contents (i.sign claims) = .ok (Text.utf8 claims.toText) := by
  unfold contents
  rw [openToken_sign same]
  exact partBytes_encodePart claims

/-- A token that was signed with the same secret is judged by its expiry alone. -/
theorem decode_sign {α : Type} {d : Decoder α} {claims : Json} {a : α} {expires : Int} (same : j.secret = i.secret)
    (reads : d.readDocument claims.print = .ok a)
    (checked : Checked.decoder.readDocument claims.print = .ok ⟨timeOf? (.whole expires), none⟩) (future : 0 ≤ expires)
    (now : Option Instant) :
    j.decode now d (i.sign claims) =
      if now.any fun now => expires < now.seconds - leeway then .error .expired else .ok a := by
  rw [timeOf?, if_pos future] at checked
  rw [decode_eq, contents_sign same, ok_bind, readPart_utf8 reads, ok_bind, readPart_utf8 checked, ok_bind, check_eq,
    Int.toNat_of_nonneg future]
  split <;> rfl

theorem decodeAccess_sign {c : AccessClaims} (same : j.secret = i.secret) (isAccess : c.kind = .access)
    (future : 0 ≤ c.expires.toInt) (now : Option Instant) :
    j.decodeAccess now (i.sign c.toJson) =
      if now.any fun now => c.expires.toInt < now.seconds - leeway then .error .expired else .ok c := by
  obtain ⟨reads, checked⟩ := c.readDocument_print
  unfold decodeAccess
  rw [decode_sign same reads checked future]
  split
  · rfl
  · rw [ok_bind, isAccess]
    rfl

/-- A signed access token is accepted for a minute longer than it lasts. -/
theorem verifyAccess_sign {c : AccessClaims} (same : j.secret = i.secret) (isAccess : c.kind = .access)
    (future : 0 ≤ c.expires.toInt) (now : Instant) :
    j.verifyAccess now (i.sign c.toJson) =
      if now.seconds - 60 ≤ c.expires.toInt then .ok c else .error .expired := by
  unfold verifyAccess
  rw [decodeAccess_sign same isAccess future]
  simp only [Option.any_some, decide_eq_true_eq, ← Int.not_le, ite_not]
  rfl

theorem verifyRefresh_sign {c : RefreshClaims} (same : j.secret = i.secret) (isRefresh : c.kind = .refresh)
    (future : 0 ≤ c.expires.toInt) (now : Instant) :
    j.verifyRefresh now (i.sign c.toJson) =
      if now.seconds - 60 ≤ c.expires.toInt then .ok c else .error .expired := by
  obtain ⟨reads, checked⟩ := c.readDocument_print
  unfold verifyRefresh
  rw [decode_sign same reads checked future]
  simp only [Option.any_some, decide_eq_true_eq, ← Int.not_le, ite_not]
  unfold leeway
  split
  · rw [ok_bind, isRefresh]
    rfl
  · rfl

/-- An issuer has the lifetimes of its settings. -/
theorem lifetimes_of_ofSettings {secret : String} {minutes hours : Int64}
    (configured : ofSettings secret minutes hours = .ok i) :
    lifetime? minutes 60 = some i.accessLifetime ∧ lifetime? hours 3600 = some i.refreshLifetime := by
  unfold ofSettings at configured
  cases access : lifetime? minutes 60 with
  | none =>
    rw [access] at configured
    cases configured
  | some accessLifetime =>
    cases refresh : lifetime? hours 3600 with
    | none =>
      rw [access, refresh] at configured
      cases configured
    | some refreshLifetime =>
      rw [access, refresh] at configured
      dsimp only at configured
      split at configured
      · cases configured
      · obtain rfl := Except.ok.inj configured
        exact ⟨rfl, rfl⟩

theorem seconds_of_addSeconds? {issued t : Instant} {seconds : Int} (ends : issued.addSeconds? seconds = some t) :
    t.seconds = issued.seconds + seconds ∧ Instant.calendarSeconds.1 ≤ t.seconds ∧
      t.seconds ≤ Instant.calendarSeconds.2 := by
  unfold Instant.addSeconds? at ends
  dsimp only at ends
  split at ends
  next calendar =>
    obtain rfl := Option.some.inj ends
    rw [Bool.and_eq_true, decide_eq_true_eq, decide_eq_true_eq] at calendar
    exact ⟨Int.add_mul_fdiv_right _ _ (by decide), calendar⟩
  · cases ends

/-- What expires within the calendar has times that 64 bits hold, both of its issue and of its expiry. -/
theorem expiry_eq {count : Int64} {unit lifetime : Int} {issued t : Instant}
    (lives : lifetime? count unit = some lifetime) (ends : issued.addSeconds? (unit * count.toInt) = some t) :
    ∃ expires : Int64, expiry issued lifetime = .ok expires ∧ expires.toInt = t.seconds ∧
      t.seconds = issued.seconds + unit * count.toInt ∧ (Int64.ofInt issued.seconds).toInt = issued.seconds := by
  obtain ⟨later, first, last⟩ := seconds_of_addSeconds? ends
  have calendar : -2 ^ 62 ≤ Instant.calendarSeconds.1 ∧ Instant.calendarSeconds.2 ≤ 2 ^ 62 := by decide
  unfold lifetime? at lives
  dsimp only at lives
  split at lives
  next bounded =>
    obtain rfl := Option.some.inj lives
    have greatest : Int64.maxValue.toInt = 2 ^ 63 - 1 := rfl
    rw [Bool.and_eq_true, decide_eq_true_eq, decide_eq_true_eq, Int.mul_comm count.toInt] at bounded
    refine ⟨Int64.ofInt t.seconds, ?_, ?_, later, ?_⟩
    · unfold expiry
      rw [Int.mul_comm count.toInt, ends]
    · exact Int64.toInt_ofInt_of_le (by omega) (by omega)
    · exact Int64.toInt_ofInt_of_le (by omega) (by omega)
  · cases lives

theorem issueAccess_eq {issued : Instant} {userId : Uuid} {role : Role} {expires : Int64}
    (ends : expiry issued i.accessLifetime = .ok expires) : i.issueAccess issued userId role =
      .ok (i.sign (AccessClaims.toJson ⟨userId, role, .access, expires, Int64.ofInt issued.seconds⟩)) := by
  unfold issueAccess
  rw [ends]
  rfl

theorem issueRefresh_eq {issued : Instant} {userId : Uuid} {expires : Int64}
    (ends : expiry issued i.refreshLifetime = .ok expires) : i.issueRefresh issued userId =
      .ok (i.sign (RefreshClaims.toJson ⟨userId, .refresh, expires, Int64.ofInt issued.seconds⟩)) := by
  unfold issueRefresh
  rw [ends]
  rfl

/-- A token is accepted until a minute after its expiry, with the claims it was issued with, by every issuer with the
secret it was signed with; later it has expired. An access token that has expired can still be decoded. -/
theorem accepted_until_expiry {secret : String} {minutes hours : Int64} {i j : Issuer}
    (configured : ofSettings secret minutes hours = .ok i) (same : j.secret = i.secret) (userId : Uuid) (role : Role)
    (issued : Instant) :
    (∀ expiry, issued.addSeconds? (60 * minutes.toInt) = some expiry → 0 ≤ expiry.micros → ∃ token claims,
      i.issueAccess issued userId role = .ok token ∧ claims.userId = userId ∧ claims.role = role ∧
      claims.kind = .access ∧ claims.issued.toInt = issued.seconds ∧
      claims.expires.toInt = issued.seconds + 60 * minutes.toInt ∧
      (∀ now, j.verifyAccess now token =
        if now.seconds - 60 ≤ claims.expires.toInt then .ok claims else .error .expired) ∧
      j.decodeExpiredAccess token = .ok claims) ∧
    (∀ expiry, issued.addSeconds? (3600 * hours.toInt) = some expiry → 0 ≤ expiry.micros → ∃ token claims,
      i.issueRefresh issued userId = .ok token ∧ claims.userId = userId ∧ claims.kind = .refresh ∧
      claims.issued.toInt = issued.seconds ∧ claims.expires.toInt = issued.seconds + 3600 * hours.toInt ∧
      ∀ now, j.verifyRefresh now token =
        if now.seconds - 60 ≤ claims.expires.toInt then .ok claims else .error .expired) := by
  obtain ⟨access, refresh⟩ := lifetimes_of_ofSettings configured
  constructor
  · intro t ends future
    obtain ⟨expires, expiry, atExpiry, later, atIssue⟩ := expiry_eq access ends
    have timely : 0 ≤ expires.toInt := atExpiry ▸ Int.fdiv_nonneg future (by decide)
    refine ⟨_, ⟨userId, role, .access, expires, _⟩, issueAccess_eq expiry, rfl, rfl, rfl, atIssue, ?_, ?_, ?_⟩
    · exact atExpiry.trans later
    · exact verifyAccess_sign same rfl timely
    · exact decodeAccess_sign same rfl timely none
  · intro t ends future
    obtain ⟨expires, expiry, atExpiry, later, atIssue⟩ := expiry_eq refresh ends
    have timely : 0 ≤ expires.toInt := atExpiry ▸ Int.fdiv_nonneg future (by decide)
    refine ⟨_, ⟨userId, .refresh, expires, _⟩, issueRefresh_eq expiry, rfl, rfl, atIssue, ?_, ?_⟩
    · exact atExpiry.trans later
    · exact verifyRefresh_sign same rfl timely

/-- Tokens for a quarter of an hour and for a day, in the last second in which they are accepted and in the next. -/
theorem quarterHour_accepted : ∃ i, ofSettings "keep this safe" 15 24 = .ok i ∧
    (∃ token claims, i.issueAccess ⟨1700000000500000⟩ (.ofNat 7) .admin = .ok token ∧ claims.role = .admin ∧
      i.verifyAccess ⟨1700000960999999⟩ token = .ok claims ∧
      i.verifyAccess ⟨1700000961000000⟩ token = .error .expired ∧ i.decodeExpiredAccess token = .ok claims) ∧
    (∃ token claims, i.issueRefresh ⟨1700000000500000⟩ (.ofNat 7) = .ok token ∧ claims.userId = .ofNat 7 ∧
      i.verifyRefresh ⟨1700086460999999⟩ token = .ok claims ∧
      i.verifyRefresh ⟨1700086461000000⟩ token = .error .expired) := by
  have configured : ofSettings "keep this safe" 15 24 = .ok ⟨Text.utf8 "keep this safe", 900, 86400⟩ := rfl
  obtain ⟨access, refresh⟩ := accepted_until_expiry configured rfl (.ofNat 7) .admin ⟨1700000000500000⟩
  refine ⟨_, configured, ?_, ?_⟩
  · obtain ⟨token, claims, issues, -, role, -, -, expires, verifies, decodes⟩ :=
      access ⟨1700000900500000⟩ (by decide) (by decide)
    have ends : claims.expires.toInt = 1700000900 := expires
    refine ⟨token, claims, issues, role, ?_, ?_, decodes⟩
    · rw [verifies, ends]
      rfl
    · rw [verifies, ends]
      rfl
  · obtain ⟨token, claims, issues, userId, -, -, expires, verifies⟩ :=
      refresh ⟨1700086400500000⟩ (by decide) (by decide)
    have ends : claims.expires.toInt = 1700086400 := expires
    refine ⟨token, claims, issues, userId, ?_, ?_⟩
    · rw [verifies, ends]
      rfl
    · rw [verifies, ends]
      rfl

end Issuer

end AssetRegistry

import Mathlib.Data.List.TakeWhile
import RelationGate.Proofs.Auth.Payload

/-!
# Which tokens are accepted

A token splits at its last two dots (`Splits`, `ofText_eq_ok_iff`). What comes of it is told in two
parts, since an issuer and an audience are looked at behind everything else.

* `verify_bound_iff`: with an issuer and an audience a token is accepted if it is accepted without
  them and its payload names nobody else. One that names nobody, or in no form that can be compared,
  is accepted too.
* `verify_iff`: without them, and with a shared secret, a token is accepted if it is signed as it
  has to be and its payload gives claims that are not over, and refused with the error of the first
  step that fails. `Accepts` and `Refuses` describe the steps, `accepts_or_refuses` says that they
  leave out nothing.
-/

namespace RelationGate

open Json AuthSettings

/-! ## The parts of a token -/

section

variable {cs front tail : List Char} {token : String} {p : TokenParts}

theorem forall_ne_dot (h : '.' ∉ cs) : ∀ c ∈ cs.reverse, decide (c ≠ '.') = true := fun _ hc =>
  decide_eq_true fun hdot => h (hdot ▸ List.mem_reverse.1 hc)

theorem cutLast_of_notMem (h : '.' ∉ cs) : cutLast cs = none := by
  rw [cutLast, List.dropWhile_eq_nil_iff.2 (forall_ne_dot h)]

theorem cutLast_append (h : '.' ∉ tail) : cutLast (front ++ '.' :: tail) = some (front, tail) := by
  have hreverse : (front ++ '.' :: tail).reverse = tail.reverse ++ '.' :: front.reverse := by simp
  rw [cutLast, hreverse, List.dropWhile_append_of_pos (forall_ne_dot h),
    List.takeWhile_append_of_pos (forall_ne_dot h)]
  simp

theorem cutLast_eq_some_iff :
    cutLast cs = some (front, tail) ↔ cs = front ++ '.' :: tail ∧ '.' ∉ tail := by
  constructor
  · intro h
    by_cases hdot : '.' ∈ cs
    · obtain ⟨behind, before, hcs, hbehind⟩ :=
        List.eq_append_cons_of_mem (List.mem_reverse.2 hdot)
      have hcs : cs = before.reverse ++ '.' :: behind.reverse := by
        rw [← List.reverse_reverse cs, hcs]
        simp
      have hbehind : '.' ∉ behind.reverse := fun h => hbehind (List.mem_reverse.1 h)
      rw [hcs, cutLast_append hbehind] at h
      obtain ⟨rfl, rfl⟩ := Prod.ext_iff.1 (Option.some.inj h)
      exact ⟨hcs, hbehind⟩
    · rw [cutLast_of_notMem hdot] at h
      cases h
  · rintro ⟨rfl, h⟩
    exact cutLast_append h

/-- How a token splits from the right: its signature is behind the last dot, its payload between the
last two. -/
structure Splits (token : String) (p : TokenParts) : Prop where
  text : token.toList = p.message ++ '.' :: p.signature
  message : p.message = p.header ++ '.' :: p.payload
  payload : '.' ∉ p.payload
  signature : '.' ∉ p.signature

theorem ofText_eq_ok_iff : TokenParts.ofText token = .ok p ↔ Splits token p := by
  rw [TokenParts.ofText]
  constructor
  · intro h
    split at h
    · cases h
    next message signature hsignature =>
    split at h
    · cases h
    next header payload hpayload =>
    cases h
    obtain ⟨htext, hsignature⟩ := cutLast_eq_some_iff.1 hsignature
    obtain ⟨hmessage, hpayload⟩ := cutLast_eq_some_iff.1 hpayload
    exact ⟨htext, hmessage, hpayload, hsignature⟩
  · intro h
    rw [cutLast_eq_some_iff.2 ⟨h.text, h.signature⟩]
    dsimp only
    rw [cutLast_eq_some_iff.2 ⟨h.message, h.payload⟩]

theorem ofText_eq_error {fault : TokenFault} (h : TokenParts.ofText token = .error fault) :
    fault = .parts := by
  rw [TokenParts.ofText] at h
  split at h
  · exact (Except.error.inj h).symm
  split at h
  · exact (Except.error.inj h).symm
  · cases h

theorem ofText_of_not_splits (h : ∀ p, ¬Splits token p) :
    TokenParts.ofText token = .error .parts := by
  cases hparts : TokenParts.ofText token with
  | ok p => exact (h p (ofText_eq_ok_iff.1 hparts)).elim
  | error fault => rw [ofText_eq_error hparts]

theorem readHeader_of_splits (h : Splits token p) :
    readHeader token = readPart TokenHeader.codec p.header := by
  rw [readHeader, ofText_eq_ok_iff.2 h, ok_bind]

end

/-! ## Issuer and audience -/

namespace AuthSettings

/-- A document is a text or a list of texts. -/
inductive IsTexts : Json → List String → Prop
  | text (t : String) : IsTexts (.str t) [t]
  | list (ts : List String) : IsTexts (.arr (ts.map .str)) ts

theorem textsOf_list_iff {xs : List Json} {ts : List String} :
    textsOf (.arr xs) = some ts ↔ xs = ts.map .str := by
  rw [textsOf]
  induction xs generalizing ts with
  | nil => simp [eq_comm]
  | cons x xs ih =>
    rw [List.mapM_cons]
    cases x with
    | str t =>
      simp only [Option.bind_eq_bind, Option.bind_some, Option.bind_eq_some_iff, ih]
      constructor
      · rintro ⟨ts, rfl, ⟨⟩⟩
        rfl
      · intro h
        cases ts with
        | nil => cases h
        | cons t' ts =>
          cases h
          exact ⟨ts, rfl, rfl⟩
    | _ => cases ts <;> simp

theorem textsOf_eq_some_iff {j : Json} {ts : List String} :
    textsOf j = some ts ↔ IsTexts j ts := by
  constructor
  · intro h
    cases j with
    | str t =>
      cases h
      exact .text t
    | arr xs =>
      obtain rfl := textsOf_list_iff.1 h
      exact .list ts
    | _ => cases h
  · rintro (⟨t⟩ | ⟨ts⟩)
    · rfl
    · exact textsOf_list_iff.2 rfl

/-- A member of a payload names what is wanted, or is nothing that could name it. -/
def Heeds (wanted : Option String) (member : Option Json) : Prop :=
  ∀ w, wanted = some w → ∀ j, member = some j → ∀ ts, IsTexts j ts → w ∈ ts

theorem agrees_iff {wanted : Option String} {member : Option Json} :
    agrees wanted member = true ↔ Heeds wanted member := by
  simp only [Heeds, ← textsOf_eq_some_iff]
  rcases wanted with - | w
  · exact iff_of_true rfl nofun
  rcases member with - | j
  · exact iff_of_true rfl nofun
  cases hts : textsOf j with
  | none => simp [agrees, hts]
  | some ts => simp [agrees, hts]

theorem agrees_given {wanted : Option String} {member : Option Json} :
    agrees wanted (member.bind Codec.given) = agrees wanted member := by
  rcases member with - | j
  · rfl
  · cases j <;> rfl

variable {s : AuthSettings} {now : UInt64} {token : String} {claims : Claims}
  {compared : Option Json × Option Json} {e : AuthError}

/-- The settings without an issuer and an audience. -/
def unbound (s : AuthSettings) : AuthSettings := { s with issuer := none, audience := none }

theorem readSigned_unbound : s.unbound.readSigned token = s.readSigned token := rfl

theorem checkClaims_unbound :
    s.unbound.checkClaims now claims compared =
      if claims.expiry < now - s.leeway then .error .tokenExpired else .ok () := rfl

/-- **What is compared** of a signed token stands in its claims. -/
theorem compared_of_readSigned (h : s.readSigned token = .ok (claims, compared)) :
    compared = ((claims.extra.lookup "iss").bind Codec.given,
      (claims.extra.lookup "aud").bind Codec.given) := by
  rw [readSigned] at h
  -- Whatever the steps before the payload are, they have gone through.
  obtain ⟨header, -, h⟩ := bind_eq_ok_iff.1 h
  split at h
  · cases h
  obtain ⟨key, -, h⟩ := bind_eq_ok_iff.1 h
  split at h
  · cases h
  obtain ⟨p, -, h⟩ := bind_eq_ok_iff.1 h
  split at h
  · cases h
  obtain ⟨claims', hclaims, h⟩ := bind_eq_ok_iff.1 h
  obtain ⟨compared', hcompared, h⟩ := bind_eq_ok_iff.1 h
  cases h
  obtain ⟨ms, hms, hsays⟩ := readPart_claims_iff.1 (mapError_eq_ok_iff.1 hclaims)
  obtain ⟨hregistered, rfl⟩ := (readPart_compared_iff hms).1 (mapError_eq_ok_iff.1 hcompared)
  rw [presented_eq_lookup hsays hregistered (by decide),
    presented_eq_lookup hsays hregistered (by decide)]

theorem verify_of_readSigned (h : s.readSigned token = .ok (claims, compared)) :
    s.verify now token = s.checkClaims now claims compared >>= fun _ => .ok claims := by
  rw [verify, h]
  rfl

theorem verify_of_readSigned_error (h : s.readSigned token = .error e) :
    s.verify now token = .error e := by
  rw [verify, h]
  rfl

/-- An issuer and an audience are looked at last, in this order. -/
theorem verify_eq_unbound_bind :
    s.verify now token = s.unbound.verify now token >>= fun claims =>
      if !agrees s.issuer (claims.extra.lookup "iss") then .error (.invalidClaims .issuer)
      else if !agrees s.audience (claims.extra.lookup "aud") then .error (.invalidClaims .audience)
      else .ok claims := by
  cases h : s.readSigned token with
  | error e =>
    rw [verify_of_readSigned_error h, verify_of_readSigned_error (readSigned_unbound.trans h),
      error_bind]
  | ok read =>
    obtain ⟨claims, compared⟩ := read
    rw [verify_of_readSigned h, verify_of_readSigned (readSigned_unbound.trans h),
      checkClaims_unbound, checkClaims, compared_of_readSigned h, agrees_given, agrees_given]
    by_cases hexpired : claims.expiry < now - s.leeway
    · rw [if_pos hexpired, if_pos hexpired]
      rfl
    · rw [if_neg hexpired, if_neg hexpired, ok_bind, ok_bind]
      cases agrees s.issuer (claims.extra.lookup "iss") <;>
        cases agrees s.audience (claims.extra.lookup "aud") <;> rfl

/-- **What a configured issuer and a configured audience do**: a token is accepted with them if it
is accepted without them, and its issuer and its audience name the configured ones wherever they are
texts or lists of texts. One that the payload lacks, or that is anything else, is not looked at. -/
theorem verify_bound_iff (s : AuthSettings) (now : UInt64) (token : String) :
    (∀ claims, s.verify now token = .ok claims ↔
      s.unbound.verify now token = .ok claims ∧ Heeds s.issuer (claims.extra.lookup "iss") ∧
        Heeds s.audience (claims.extra.lookup "aud")) ∧
      ∀ e, s.verify now token = .error e ↔
        s.unbound.verify now token = .error e ∨
          ∃ claims, s.unbound.verify now token = .ok claims ∧
            (¬Heeds s.issuer (claims.extra.lookup "iss") ∧ e = .invalidClaims .issuer ∨
              Heeds s.issuer (claims.extra.lookup "iss") ∧
                ¬Heeds s.audience (claims.extra.lookup "aud") ∧ e = .invalidClaims .audience) := by
  rw [verify_eq_unbound_bind]
  simp only [← agrees_iff, bind_eq_ok_iff, bind_eq_error_iff]
  constructor
  · intro claims
    constructor
    · rintro ⟨claims', hclaims, h⟩
      cases hissuer : agrees s.issuer (claims'.extra.lookup "iss") <;>
        cases haudience : agrees s.audience (claims'.extra.lookup "aud") <;>
          simp only [hissuer, haudience] at h <;> cases h
      exact ⟨hclaims, hissuer, haudience⟩
    · rintro ⟨hclaims, hissuer, haudience⟩
      refine ⟨claims, hclaims, ?_⟩
      rw [hissuer, haudience]
      rfl
  · intro e
    refine or_congr_right (exists_congr fun claims => and_congr_right fun _ => ?_)
    cases agrees s.issuer (claims.extra.lookup "iss") <;>
      cases agrees s.audience (claims.extra.lookup "aud") <;> simp [eq_comm]

/-- A token that names no issuer at all is accepted where an issuer is configured. -/
theorem verify_without_issuer :
    let s : AuthSettings :=
      { withKey .hs256 (.secret [107, 51, 121]) with issuer := some "permgate" }
    let token := "eyJ0eXAiOiJKV1QiLCJhbGciOiJIUzI1NiJ9." ++
      "eyJzdWIiOiJhbGljZSIsImV4cCI6NDEwMjQ0NDgwMH0." ++
        "X042gfdjvNMST7oiLSoo3QPjzznrrbw9HIn9yUrRKdY"
    ¬∀ claims, s.verify 0 token = .ok claims →
      ∃ j ts, claims.extra.lookup "iss" = some j ∧ IsTexts j ts ∧ "permgate" ∈ ts := by
  intro s token h
  have haccepted :
      (s.verify 0 token).toOption.map (fun c => (c.extra.lookup "iss").isSome) = some false := by
    decide +kernel
  obtain ⟨claims, hclaims, hmissing⟩ := exists_ok_of_toOption_map haccepted
  obtain ⟨j, ts, hj, -⟩ := h claims hclaims
  rw [hj] at hmissing
  cases hmissing

/-! ## Shared secrets -/

section

variable {digest : Sha2.Variant} {p : TokenParts} {header : TokenHeader} {key : VerificationKey}
  {ms : List (String × Json)} {fault : TokenFault}

theorem family_of_digest? {a : Algorithm} (h : a.digest? = some digest) : a.family = .hmac := by
  cases a <;> first | rfl | cases h

theorem signatureHolds_iff (hdigest : s.algorithm.digest? = some digest) :
    s.signatureHolds key p = true ↔ p.signature = sign digest key.bytes p.message := by
  rw [signatureHolds, hdigest]
  exact beq_iff_eq

/-- A token splits, and its header names the right algorithm. -/
structure Headed (s : AuthSettings) (token : String) (p : TokenParts) (header : TokenHeader) :
    Prop where
  splits : Splits token p
  decodes : readPart TokenHeader.codec p.header = .ok header
  algorithm : header.algorithm = s.algorithm

/-- A token is signed with the shared secret that its header leads to. -/
structure Signed (s : AuthSettings) (digest : Sha2.Variant) (token : String) (p : TokenParts)
    (header : TokenHeader) (key : VerificationKey) : Prop extends Headed s token p header where
  resolves : s.keyFor header = .ok key
  family : key.family = .hmac
  signature : p.signature = sign digest key.bytes p.message

/-- What it takes for a token to be accepted with some claims: they are what the members of its
payload say. -/
def Accepts (s : AuthSettings) (digest : Sha2.Variant) (now : UInt64) (token : String)
    (claims : Claims) : Prop :=
  ∃ p header key ms, Signed s digest token p header key ∧
    readPart Claims.codec p.payload = .ok claims ∧
      readPart Codec.written p.payload = .ok ms ∧ Says ms claims ∧ Registered ms ∧
        now.toNat - s.leeway.toNat ≤ claims.expiry.toNat

/-- The error of the first step at which a token fails. -/
inductive Refuses (s : AuthSettings) (digest : Sha2.Variant) (now : UInt64) (token : String) :
    AuthError → Prop
  | parts (hparts : ∀ p, ¬Splits token p) : Refuses s digest now token (.ofTokenFault .parts)
  | header {p : TokenParts} {fault : TokenFault} (hp : Splits token p)
      (hheader : readPart TokenHeader.codec p.header = .error fault) :
      Refuses s digest now token (.ofTokenFault fault)
  | algorithm {p : TokenParts} {header : TokenHeader} (hp : Splits token p)
      (hheader : readPart TokenHeader.codec p.header = .ok header)
      (halgorithm : header.algorithm ≠ s.algorithm) :
      Refuses s digest now token (.unexpectedAlgorithm s.algorithm header.algorithm)
  | key {p : TokenParts} {header : TokenHeader} {e : AuthError} (h : Headed s token p header)
      (hkey : s.keyFor header = .error e) : Refuses s digest now token e
  | family {p : TokenParts} {header : TokenHeader} {key : VerificationKey}
      (h : Headed s token p header) (hkey : s.keyFor header = .ok key)
      (hfamily : key.family ≠ .hmac) : Refuses s digest now token (.ofTokenFault .algorithm)
  | signature {p : TokenParts} {header : TokenHeader} {key : VerificationKey}
      (h : Headed s token p header) (hkey : s.keyFor header = .ok key)
      (hfamily : key.family = .hmac) (hsignature : p.signature ≠ sign digest key.bytes p.message) :
      Refuses s digest now token .invalidSignature
  | payload {p : TokenParts} {header : TokenHeader} {key : VerificationKey} {fault : TokenFault}
      (h : Signed s digest token p header key)
      (hclaims : readPart Claims.codec p.payload = .error fault) :
      Refuses s digest now token (.ofTokenFault fault)
  | unregistered {p : TokenParts} {header : TokenHeader} {key : VerificationKey} {claims : Claims}
      {ms : List (String × Json)} {fault : TokenFault} (h : Signed s digest token p header key)
      (hclaims : readPart Claims.codec p.payload = .ok claims)
      (hms : readPart Codec.written p.payload = .ok ms) (hregistered : ¬Registered ms)
      (hcompared : readPart comparedCodec p.payload = .error fault) :
      Refuses s digest now token (.ofTokenFault fault)
  | expired {p : TokenParts} {header : TokenHeader} {key : VerificationKey} {claims : Claims}
      {ms : List (String × Json)} (h : Signed s digest token p header key)
      (hclaims : readPart Claims.codec p.payload = .ok claims)
      (hms : readPart Codec.written p.payload = .ok ms) (hregistered : Registered ms)
      (hexpired : claims.expiry.toNat < now.toNat - s.leeway.toNat) :
      Refuses s digest now token .tokenExpired

/-- **A token of another algorithm** is refused for it, whatever key there is for its header. -/
theorem verify_of_algorithm_ne (hp : Splits token p)
    (hheader : readPart TokenHeader.codec p.header = .ok header)
    (halgorithm : header.algorithm ≠ s.algorithm) :
    s.verify now token = .error (.unexpectedAlgorithm s.algorithm header.algorithm) := by
  refine verify_of_readSigned_error ?_
  rw [readSigned, readHeader_of_splits hp, hheader, mapError_ok, ok_bind, if_pos halgorithm]
  rfl

/-- The steps from the key on. -/
theorem readSigned_of_headed (h : Headed s token p header) :
    s.readSigned token = do
      let key ← s.keyFor header
      if key.family ≠ s.algorithm.family then throw (.ofTokenFault .algorithm)
      if !s.signatureHolds key p then throw .invalidSignature
      let claims ← (readPart Claims.codec p.payload).mapError .ofTokenFault
      let compared ← (readPart comparedCodec p.payload).mapError .ofTokenFault
      return (claims, compared) := by
  rw [readSigned, readHeader_of_splits h.splits, h.decodes, mapError_ok, ok_bind,
    if_neg (not_not.2 h.algorithm), ofText_eq_ok_iff.2 h.splits]
  rfl

/-- The steps from the payload on. -/
theorem readSigned_of_signed (hdigest : s.algorithm.digest? = some digest)
    (h : Signed s digest token p header key) :
    s.readSigned token = do
      let claims ← (readPart Claims.codec p.payload).mapError .ofTokenFault
      let compared ← (readPart comparedCodec p.payload).mapError .ofTokenFault
      return (claims, compared) := by
  rw [readSigned_of_headed h.toHeaded, h.resolves, ok_bind,
    if_neg (not_not.2 (h.family.trans (family_of_digest? hdigest).symm)),
    (signatureHolds_iff hdigest).2 h.signature]
  rfl

section

variable (hdigest : s.algorithm.digest? = some digest) (hissuer : s.issuer = none)
  (haudience : s.audience = none) (hleeway : s.leeway ≤ now)

include hissuer haudience hleeway

/-- The last steps: without an issuer and an audience there is only the expiry left. -/
theorem checkClaims_of_unbound :
    s.checkClaims now claims compared =
      if claims.expiry.toNat < now.toNat - s.leeway.toNat then .error .tokenExpired else .ok () := by
  have hexpiry : claims.expiry < now - s.leeway ↔
      claims.expiry.toNat < now.toNat - s.leeway.toNat := by
    rw [UInt64.lt_iff_toNat_lt, UInt64.toNat_sub_of_le _ _ hleeway]
  rw [checkClaims, hissuer, haudience]
  simp only [hexpiry]
  rfl

include hdigest

theorem verify_of_registered (h : Signed s digest token p header key)
    (hclaims : readPart Claims.codec p.payload = .ok claims)
    (hms : readPart Codec.written p.payload = .ok ms) (hregistered : Registered ms) :
    s.verify now token =
      if claims.expiry.toNat < now.toNat - s.leeway.toNat then .error .tokenExpired
      else .ok claims := by
  have hread : s.readSigned token =
      .ok (claims, presented "iss" ms, presented "aud" ms) := by
    rw [readSigned_of_signed hdigest h, hclaims,
      (readPart_compared_iff hms).2 ⟨hregistered, rfl⟩]
    rfl
  rw [verify_of_readSigned hread, checkClaims_of_unbound hissuer haudience hleeway]
  split <;> rfl

theorem verify_of_accepts (h : Accepts s digest now token claims) :
    s.verify now token = .ok claims := by
  obtain ⟨p, header, key, ms, hsigned, hclaims, hms, -, hregistered, hexpiry⟩ := h
  rw [verify_of_registered hdigest hissuer haudience hleeway hsigned hclaims hms hregistered,
    if_neg (not_lt.2 hexpiry)]

theorem verify_of_refuses (h : Refuses s digest now token e) :
    s.verify now token = .error e := by
  have hfamily := family_of_digest? hdigest
  cases h with
  | parts hparts =>
    refine verify_of_readSigned_error ?_
    rw [readSigned, readHeader, ofText_of_not_splits hparts]
    rfl
  | header hp hheader =>
    refine verify_of_readSigned_error ?_
    rw [readSigned, readHeader_of_splits hp, hheader]
    rfl
  | algorithm hp hheader halgorithm => exact verify_of_algorithm_ne hp hheader halgorithm
  | key h hkey =>
    refine verify_of_readSigned_error ?_
    rw [readSigned_of_headed h, hkey]
    rfl
  | family h hkey hne =>
    refine verify_of_readSigned_error ?_
    rw [readSigned_of_headed h, hkey, ok_bind, if_pos (hfamily.symm ▸ hne)]
    rfl
  | signature h hkey hhmac hsignature =>
    refine verify_of_readSigned_error ?_
    rw [readSigned_of_headed h, hkey, ok_bind, if_neg (not_not.2 (hhmac.trans hfamily.symm)),
      Bool.eq_false_iff.2 ((signatureHolds_iff hdigest).not.2 hsignature)]
    rfl
  | payload h hclaims =>
    refine verify_of_readSigned_error ?_
    rw [readSigned_of_signed hdigest h, hclaims]
    rfl
  | unregistered h hclaims _ _ hcompared =>
    refine verify_of_readSigned_error ?_
    rw [readSigned_of_signed hdigest h, hclaims, hcompared]
    rfl
  | expired h hclaims hms hregistered hexpired =>
    rw [verify_of_registered hdigest hissuer haudience hleeway h hclaims hms hregistered,
      if_pos hexpired]

end

/-- Every token is accepted or fails at some step. -/
theorem accepts_or_refuses (s : AuthSettings) (digest : Sha2.Variant) (now : UInt64)
    (token : String) :
    (∃ claims, Accepts s digest now token claims) ∨ ∃ e, Refuses s digest now token e := by
  by_cases hparts : ∀ p, ¬Splits token p
  · exact .inr ⟨_, .parts hparts⟩
  obtain ⟨p, hp⟩ := not_forall_not.1 hparts
  cases hheader : readPart TokenHeader.codec p.header with
  | error fault => exact .inr ⟨_, .header hp hheader⟩
  | ok header =>
  by_cases halgorithm : header.algorithm = s.algorithm
  case neg => exact .inr ⟨_, .algorithm hp hheader halgorithm⟩
  have hheaded : Headed s token p header := ⟨hp, hheader, halgorithm⟩
  cases hkey : s.keyFor header with
  | error e => exact .inr ⟨_, .key hheaded hkey⟩
  | ok key =>
  by_cases hfamily : key.family = .hmac
  case neg => exact .inr ⟨_, .family hheaded hkey hfamily⟩
  by_cases hsignature : p.signature = sign digest key.bytes p.message
  case neg => exact .inr ⟨_, .signature hheaded hkey hfamily hsignature⟩
  have hsigned : Signed s digest token p header key :=
    { toHeaded := hheaded, resolves := hkey, family := hfamily, signature := hsignature }
  cases hclaims : readPart Claims.codec p.payload with
  | error fault => exact .inr ⟨_, .payload hsigned hclaims⟩
  | ok claims =>
  obtain ⟨ms, hms, hsays⟩ := readPart_claims_iff.1 hclaims
  by_cases hregistered : Registered ms
  · by_cases hexpired : claims.expiry.toNat < now.toNat - s.leeway.toNat
    · exact .inr ⟨_, .expired hsigned hclaims hms hregistered hexpired⟩
    · exact .inl ⟨claims, p, header, key, ms, hsigned, hclaims, hms, hsays, hregistered,
        not_lt.1 hexpired⟩
  · cases hcompared : readPart comparedCodec p.payload with
    | error fault => exact .inr ⟨_, .unregistered hsigned hclaims hms hregistered hcompared⟩
    | ok compared => exact (hregistered ((readPart_compared_iff hms).1 hcompared).1).elim

/-- **Verification accepts exactly the right tokens.** For an algorithm with a shared secret, and
without an issuer and an audience, a token is accepted with some claims if it is signed as it has to
be and its payload gives these claims, each registered member once at most, with an expiry that is
not over. Every other token is refused with the error of the first step that fails. A token of
another algorithm is refused for it, whatever its payload and its signature are, and whatever key
there is for its header. -/
theorem verify_iff {s : AuthSettings} {digest : Sha2.Variant} {now : UInt64}
    (hdigest : s.algorithm.digest? = some digest) (hissuer : s.issuer = none)
    (haudience : s.audience = none) (hleeway : s.leeway ≤ now) (token : String) :
    (∀ claims, s.verify now token = .ok claims ↔ Accepts s digest now token claims) ∧
      (∀ e, s.verify now token = .error e ↔ Refuses s digest now token e) ∧
        ∀ p header, Splits token p → readPart TokenHeader.codec p.header = .ok header →
          header.algorithm ≠ s.algorithm → ∀ keyFor,
            { s with keyFor }.verify now token =
              .error (.unexpectedAlgorithm s.algorithm header.algorithm) := by
  refine ⟨fun claims => ⟨fun h => ?_, verify_of_accepts hdigest hissuer haudience hleeway⟩,
    fun e => ⟨fun h => ?_, verify_of_refuses hdigest hissuer haudience hleeway⟩, ?_⟩
  -- What the description says of the token happens, so what has happened is what it says.
  · obtain ⟨claims', hclaims'⟩ | ⟨e, he⟩ := accepts_or_refuses s digest now token
    · rw [verify_of_accepts hdigest hissuer haudience hleeway hclaims'] at h
      cases h
      exact hclaims'
    · rw [verify_of_refuses hdigest hissuer haudience hleeway he] at h
      cases h
  · obtain ⟨claims, hclaims⟩ | ⟨e', he'⟩ := accepts_or_refuses s digest now token
    · rw [verify_of_accepts hdigest hissuer haudience hleeway hclaims] at h
      cases h
    · rw [verify_of_refuses hdigest hissuer haudience hleeway he'] at h
      cases h
      exact he'
  · intro p header hp hheader halgorithm keyFor
    exact verify_of_algorithm_ne (s := { s with keyFor }) hp hheader halgorithm

/-- A token of Alice is accepted until it is over, and never for another algorithm. -/
theorem verify_iff_alice :
    let key : VerificationKey := .secret [107, 51, 121]
    let p : TokenParts :=
      { header := "eyJhbGciOiJIUzI1NiJ9".toList
        payload := "eyJzdWIiOiJhbGljZSIsImV4cCI6OX0".toList
        signature := "Y8FKVXI72n16i-ABgwjnQXEKnqvP4sDSyI2IjytyNlE".toList
        message := "eyJhbGciOiJIUzI1NiJ9.eyJzdWIiOiJhbGljZSIsImV4cCI6OX0".toList }
    let token := String.ofList (p.message ++ '.' :: p.signature)
    (∃ claims, claims.subject = "alice" ∧
        Accepts (withKey .hs256 key) Sha2.sha256 9 token claims) ∧
      (withKey .hs256 key).verify 10 token = .error .tokenExpired ∧
        (withKey .hs384 key).verify 9 token = .error (.unexpectedAlgorithm .hs384 .hs256) := by
  intro key p token
  have hverified : ((withKey .hs256 key).verify 9 token).toOption.map
      (fun claims => (claims.subject, claims.expiry)) = some ("alice", 9) := by decide +kernel
  obtain ⟨claims, hclaims, hsays⟩ := exists_ok_of_toOption_map hverified
  obtain ⟨hsubject, hexpiry⟩ := Prod.ext_iff.1 hsays
  have haccepts := ((verify_iff rfl rfl rfl (by decide) token).1 claims).1 hclaims
  refine ⟨⟨claims, hsubject, haccepts⟩, ?_, ?_⟩
  · obtain ⟨p, header, key, ms, hsigned, hdecodes, hms, -, hregistered, -⟩ := haccepts
    have hexpired : claims.expiry.toNat < 10 := by
      rw [show claims.expiry = 9 from hexpiry]
      decide
    exact ((verify_iff rfl rfl rfl (by decide) token).2.1 _).2
      (.expired hsigned hdecodes hms hregistered hexpired)
  · have hsplits : Splits token p :=
      { text := String.toList_ofList
        message := by decide +kernel
        payload := by decide +kernel
        signature := by decide +kernel }
    have hreads : (readPart TokenHeader.codec p.header).toOption.map (·.algorithm) =
        some .hs256 := by decide +kernel
    obtain ⟨header, hheader, halgorithm⟩ := exists_ok_of_toOption_map hreads
    rw [← halgorithm]
    exact (verify_iff (s := withKey .hs384 key) rfl rfl rfl (by decide) token).2.2 p header hsplits
      hheader (by rw [halgorithm]; decide) _

/-- A token that is signed as it has to be, and gives claims that are not over, but two issuers. -/
theorem verify_twice_issued :
    ¬∀ (s : AuthSettings) (digest : Sha2.Variant) (now : UInt64) (token : String) (claims : Claims),
      s.algorithm.digest? = some digest → s.issuer = none → s.audience = none → s.leeway ≤ now →
        (s.verify now token = .ok claims ↔
          ∃ p header key, Signed s digest token p header key ∧
            readPart Claims.codec p.payload = .ok claims ∧
              now.toNat - s.leeway.toNat ≤ claims.expiry.toNat) := by
  intro h
  let s : AuthSettings := withKey .hs256 (.secret [107, 51, 121])
  let p : TokenParts :=
    { header := "eyJhbGciOiJIUzI1NiJ9".toList
      payload := "eyJzdWIiOiJhbGljZSIsImV4cCI6OSwiaXNzIjoiYSIsImlzcyI6ImIifQ".toList
      signature := "nU8v2SIorkftWuWu_kNuK2wTFrty0Vnd0bZi5OvciHo".toList
      message :=
        "eyJhbGciOiJIUzI1NiJ9.eyJzdWIiOiJhbGljZSIsImV4cCI6OSwiaXNzIjoiYSIsImlzcyI6ImIifQ".toList }
  let token := String.ofList (p.message ++ '.' :: p.signature)
  have hreads : (readPart TokenHeader.codec p.header).toOption.map (·.algorithm) = some .hs256 := by
    decide +kernel
  have hdecodes : (readPart Claims.codec p.payload).toOption.map (·.expiry) = some 9 := by
    decide +kernel
  obtain ⟨header, hheader, halgorithm⟩ := exists_ok_of_toOption_map hreads
  obtain ⟨claims, hclaims, hexpiry⟩ := exists_ok_of_toOption_map hdecodes
  have hsplits : Splits token p :=
    { text := String.toList_ofList
      message := by decide +kernel
      payload := by decide +kernel
      signature := by decide +kernel }
  have hsigned : Signed s Sha2.sha256 token p header (.secret [107, 51, 121]) :=
    { splits := hsplits
      decodes := hheader
      algorithm := halgorithm
      resolves := rfl
      family := rfl
      signature := by decide +kernel }
  have haccepted := (h s Sha2.sha256 9 token claims rfl rfl rfl (by decide)).2
    ⟨p, header, _, hsigned, hclaims, by rw [hexpiry]; decide⟩
  have hrepeated : (readPart comparedCodec p.payload).toOption.isSome = false := by decide +kernel
  cases hcompared : readPart comparedCodec p.payload with
  | ok compared =>
    rw [hcompared] at hrepeated
    cases hrepeated
  | error fault =>
    have hrefused : s.verify 9 token = .error (.ofTokenFault fault) :=
      verify_of_readSigned_error (by rw [readSigned_of_signed rfl hsigned, hclaims, hcompared]; rfl)
    cases haccepted.symm.trans hrefused

end

end AuthSettings

end RelationGate

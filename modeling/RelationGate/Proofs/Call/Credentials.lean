import Mathlib.Data.List.DropRight
import RelationGate.Call.Stage

/-!
# What an authorization is taken for

The `authorization` value of a call is trimmed where it is read, cut at its first space, and what
stands behind the space is trimmed again. Between the two trimmings every value is one of three
things (`Headers.Lacks`, `Headers.Misstates`, `Headers.Bears`), told by the value as it came:

* there is none, or it cannot be read, or it is blank: the token is missing;
* leading white space aside, nothing but white space stands behind its first space, or there is no
  space at all, or the text before it is not the bearer scheme: the token is malformed;
* otherwise the text behind the space, without the white space around it, is verified.

The first trimming takes away the space behind a scheme that nothing follows. So a bearer scheme
without a token counts as malformed, and the test for an empty token never succeeds.

Main result: `authorization_classified`.
-/

namespace RelationGate

/-! ## White space at the ends of a text -/

namespace Text

variable {cs front back : List Char}

/-- Nothing but white space. -/
abbrev AllBlank (cs : List Char) : Prop := ∀ c ∈ cs, isBlank c = true

theorem trimChars_eq (cs : List Char) :
    trimChars cs = (cs.dropWhile isBlank).rdropWhile isBlank := rfl

theorem trimChars_eq_nil_iff : trimChars cs = [] ↔ AllBlank cs := by
  rw [trimChars_eq, List.rdropWhile_eq_nil_iff]
  refine ⟨fun h c hc => ?_, fun h c hc => h c ((List.dropWhile_suffix _).subset hc)⟩
  rw [← List.takeWhile_append_dropWhile (p := isBlank) (l := cs), List.mem_append] at hc
  exact hc.elim List.mem_takeWhile_imp (h c)

theorem trim_isEmpty_iff {s : String} : (trim s).isEmpty = true ↔ AllBlank s.toList := by
  rw [String.isEmpty_iff, trim, ← trimChars_eq_nil_iff, String.ofList_eq_empty_iff]

/-- White space at the end of a text is at the end of its last part. -/
theorem rdropWhile_append (h : ¬AllBlank back) :
    (front ++ back).rdropWhile isBlank = front ++ back.rdropWhile isBlank := by
  have hback : back.reverse.dropWhile isBlank ≠ [] := fun hnil =>
    h (List.rdropWhile_eq_nil_iff.1 (List.reverse_eq_nil_iff.2 hnil))
  rw [List.rdropWhile, List.reverse_append, List.dropWhile_append,
    if_neg (by simpa using hback), List.reverse_append, List.reverse_reverse, List.rdropWhile]

theorem rdropWhile_append_of_allBlank (h : AllBlank back) :
    (front ++ back).rdropWhile isBlank = front.rdropWhile isBlank := by
  rw [List.rdropWhile, List.reverse_append, List.dropWhile_append_of_pos, List.rdropWhile]
  exact fun c hc => h c (List.mem_reverse.1 hc)

theorem trimChars_of_dropWhile (hcs : cs.dropWhile isBlank = front ++ back)
    (h : ¬AllBlank back) : trimChars cs = front ++ back.rdropWhile isBlank := by
  rw [trimChars_eq, hcs, rdropWhile_append h]

/-- The order of the two ends does not matter. -/
theorem dropWhile_rdropWhile (cs : List Char) :
    (cs.rdropWhile isBlank).dropWhile isBlank = (cs.dropWhile isBlank).rdropWhile isBlank := by
  cases hback : cs.dropWhile isBlank with
  | nil =>
    rw [List.dropWhile_eq_nil_iff] at hback
    rw [List.rdropWhile_eq_nil_iff.2 hback]
    rfl
  | cons c rest =>
    have hc : isBlank c = false := by
      simpa [hback] using List.head?_dropWhile_not isBlank cs
    have hfront : ∀ x ∈ cs.takeWhile isBlank, isBlank x = true := fun _ => List.mem_takeWhile_imp
    have hrest : ¬AllBlank (c :: rest) := fun h =>
      Bool.noConfusion (hc.symm.trans (h c List.mem_cons_self))
    rw [← List.takeWhile_append_dropWhile (p := isBlank) (l := cs), hback,
      rdropWhile_append hrest, List.dropWhile_append_of_pos hfront]
    -- What is left of the second part still begins with its first character.
    obtain ⟨tail, htail⟩ := List.rdropWhile_prefix isBlank (c :: rest)
    cases hleft : (c :: rest).rdropWhile isBlank with
    | nil => exact absurd (List.rdropWhile_eq_nil_iff.1 hleft) hrest
    | cons c' left =>
      rw [hleft, List.cons_append] at htail
      rw [List.dropWhile_cons_of_neg (by rw [(List.cons.inj htail).1, hc]; exact nofun)]

@[simp] theorem trimChars_rdropWhile (cs : List Char) :
    trimChars (cs.rdropWhile isBlank) = trimChars cs := by
  rw [trimChars_eq, dropWhile_rdropWhile, List.rdropWhile_idempotent, trimChars_eq]

end Text

open Text

/-! ## The value of a header -/

namespace Headers

variable {h : Headers} {name t : String} {value : Option String} {v : String}
  {scheme rest : List Char}

/-- A value that can be read and is not blank. -/
structure Offers (value : Option String) (v : String) : Prop where
  given : value = some v
  readable : ∀ c ∈ v.toList, isReadable c = true
  nonblank : ¬AllBlank v.toList

/-- No value, or one that cannot be read, or a blank one. -/
def Lacks (value : Option String) : Prop :=
  ∀ v, value = some v → (∃ c ∈ v.toList, isReadable c = false) ∨ AllBlank v.toList

theorem lacks_or_offers (value : Option String) : Lacks value ∨ ∃ v, Offers value v := by
  by_cases hlacks : Lacks value
  · exact .inl hlacks
  · simp only [Lacks, not_forall, not_or, not_exists, not_and, Bool.not_eq_false] at hlacks
    obtain ⟨v, hv, hreadable, c, hc, hsome⟩ := hlacks
    exact .inr ⟨v, hv, hreadable, fun hblank => hsome (hblank c hc)⟩

theorem Offers.text? (hv : Offers (h.first? name) v) : h.text? name = .some (trim v) := by
  have hreadable : v.toList.all isReadable = true := List.all_eq_true.2 hv.readable
  have hsome : ¬(trim v).isEmpty = true := fun hempty => hv.nonblank (trim_isEmpty_iff.1 hempty)
  simp only [Headers.text?, hv.given, if_pos hreadable, if_neg hsome]

theorem Lacks.text? (hlacks : Lacks (h.first? name)) : h.text? name = none := by
  rw [Headers.text?]
  cases hvalue : h.first? name with
  | none => rfl
  | some v =>
    obtain ⟨c, hc, hunreadable⟩ | hblank := hlacks v hvalue
    · have hall : ¬v.toList.all isReadable = true := fun hall =>
        Bool.noConfusion (hunreadable.symm.trans (List.all_eq_true.1 hall c hc))
      exact if_neg hall
    · simp only [if_pos (trim_isEmpty_iff.2 hblank), ite_self]

/-- Leading white space aside, a value is a scheme, a space and a rest; it has no earlier space. -/
structure Schemed (v : String) (scheme rest : List Char) : Prop where
  split : v.toList.dropWhile isBlank = scheme ++ ' ' :: rest
  first : ' ' ∉ scheme

/-- The scheme is `Bearer`, in any letter case. -/
abbrev IsBearer (scheme : List Char) : Prop := sameButCase (String.ofList scheme) "bearer" = true

/-- The value holds no token, and the words that say so. A scheme that only white space follows is
taken for one without a space. -/
inductive Misstates (value : Option String) : String → Prop where
  | unsplit {v : String} (hv : Offers value v)
      (hrest : ∀ scheme rest, Schemed v scheme rest → AllBlank rest) :
      Misstates value "expected `Bearer <token>`"
  | unsupported {v : String} {scheme rest : List Char} (hv : Offers value v)
      (hsplit : Schemed v scheme rest) (hrest : ¬AllBlank rest) (hscheme : ¬IsBearer scheme) :
      Misstates value ("unsupported authorization scheme: " ++ String.ofList scheme)

/-- The value holds a token: the text behind the space, without the white space around it. -/
inductive Bears (value : Option String) : String → Prop where
  | token {v : String} {scheme rest : List Char} (hv : Offers value v)
      (hsplit : Schemed v scheme rest) (hrest : ¬AllBlank rest) (hscheme : IsBearer scheme) :
      Bears value (String.ofList (trimChars rest))

theorem Schemed.trim (hsplit : Schemed v scheme rest) (hrest : ¬AllBlank rest) :
    trim v = String.ofList (scheme ++ ' ' :: rest.rdropWhile isBlank) := by
  have hcs : v.toList.dropWhile isBlank = (scheme ++ [' ']) ++ rest := by
    rw [hsplit.split, List.append_assoc]
    rfl
  rw [Text.trim, trimChars_of_dropWhile hcs hrest, List.append_assoc]
  rfl

/-- A space behind which there is only white space is trimmed away with it. -/
theorem space_notMem_trimChars (hrest : ∀ scheme rest, Schemed v scheme rest → AllBlank rest) :
    ' ' ∉ trimChars v.toList := by
  rw [trimChars_eq]
  by_cases hspace : ' ' ∈ v.toList.dropWhile isBlank
  · obtain ⟨scheme, rest, hsplit, hfirst⟩ := List.eq_append_cons_of_mem hspace
    have hblank : AllBlank (' ' :: rest) :=
      List.forall_mem_cons.2 ⟨by decide, hrest scheme rest ⟨hsplit, hfirst⟩⟩
    rw [hsplit, rdropWhile_append_of_allBlank hblank]
    exact fun hmem => hfirst ((List.rdropWhile_prefix isBlank scheme).subset hmem)
  · exact fun hmem => hspace ((List.rdropWhile_prefix isBlank _).subset hmem)

end Headers

/-! ## The token of a value -/

open Headers

section

variable {cs scheme rest : List Char} {value : Option String} {v words token : String}

theorem bearerToken_of_notMem (hspace : ' ' ∉ cs) :
    bearerToken (some (String.ofList cs)) =
      .error (.malformedToken "expected `Bearer <token>`") := by
  have hdrop : cs.dropWhile (· ≠ ' ') = [] :=
    List.dropWhile_eq_nil_iff.2 fun c hc => decide_eq_true fun heq => hspace (heq ▸ hc)
  simp only [bearerToken, String.toList_ofList, hdrop]

theorem bearerToken_of_append (hfirst : ' ' ∉ scheme) (rest : List Char) :
    bearerToken (some (String.ofList (scheme ++ ' ' :: rest))) =
      if sameButCase (String.ofList scheme) "bearer" then
        if trimChars rest = [] then .error .missingToken
        else .ok (String.ofList (trimChars rest))
      else .error
        (.malformedToken ("unsupported authorization scheme: " ++ String.ofList scheme)) := by
  have hscheme : ∀ c ∈ scheme, decide (c ≠ ' ') = true := fun c hc =>
    decide_eq_true fun heq => hfirst (heq ▸ hc)
  have htake : (scheme ++ ' ' :: rest).takeWhile (· ≠ ' ') = scheme := by
    rw [List.takeWhile_append_of_pos hscheme, List.takeWhile_cons_of_neg (by decide),
      List.append_nil]
  have hdrop : (scheme ++ ' ' :: rest).dropWhile (· ≠ ' ') = ' ' :: rest := by
    rw [List.dropWhile_append_of_pos hscheme, List.dropWhile_cons_of_neg (by decide)]
  simp only [bearerToken, String.toList_ofList, htake, hdrop, String.isEmpty_iff,
    String.ofList_eq_empty_iff]

theorem Headers.Misstates.bearerToken {h : Headers} {name : String}
    (hvalue : Misstates (h.first? name) words) :
    bearerToken (h.text? name) = .error (.malformedToken words) := by
  cases hvalue with
  | unsplit hv hrest =>
    rw [hv.text?]
    exact bearerToken_of_notMem (space_notMem_trimChars hrest)
  | unsupported hv hsplit hrest hscheme =>
    rw [hv.text?, hsplit.trim hrest, bearerToken_of_append hsplit.first, if_neg hscheme]

theorem Headers.Bears.bearerToken {h : Headers} {name : String}
    (hvalue : Bears (h.first? name) token) : bearerToken (h.text? name) = .ok token := by
  obtain ⟨hv, hsplit, hrest, hscheme⟩ := hvalue
  rw [hv.text?, hsplit.trim hrest, bearerToken_of_append hsplit.first, if_pos hscheme,
    trimChars_rdropWhile, if_neg fun hnil => hrest (trimChars_eq_nil_iff.1 hnil)]

/-- **Every value is one of the three.** -/
theorem Headers.classes (value : Option String) :
    Lacks value ∨ (∃ words, Misstates value words) ∨ ∃ token, Bears value token := by
  obtain hlacks | ⟨v, hv⟩ := lacks_or_offers value
  · exact .inl hlacks
  · by_cases hrest : ∀ scheme rest, Schemed v scheme rest → AllBlank rest
    · exact .inr (.inl ⟨_, .unsplit hv hrest⟩)
    · obtain ⟨scheme, hrest⟩ := not_forall.1 hrest
      obtain ⟨rest, hrest⟩ := not_forall.1 hrest
      obtain ⟨hsplit, hrest⟩ := Classical.not_imp.1 hrest
      by_cases hscheme : IsBearer scheme
      · exact .inr (.inr ⟨_, .token hv hsplit hrest hscheme⟩)
      · exact .inr (.inl ⟨_, .unsupported hv hsplit hrest hscheme⟩)

end

/-- What the stage of the authentication makes of an outcome of the verification. -/
def Stage.settle (s : Surroundings) (c : Conversation) :
    Except AuthError Claims → Except CallError Unit × Surroundings × Conversation
  | .ok claims => (.ok (), s, { c with context := { c.context with claims := some claims } })
  | .error e =>
    (.error e.toCallError,
      s.emit ⟨.warn, "auth", "rejected call",
        [("method", c.context.method), ("kind", c.context.kind.label), ("reason", e.reason)]⟩,
      c)

theorem Stage.enter_auth (settings : AuthSettings) (s : Surroundings) (c : Conversation) :
    (Stage.auth settings).enter s c =
      settle s c (credentials settings s.unixTime c.context.headers) := by
  rw [Stage.enter]
  cases credentials settings s.unixTime c.context.headers <;> rfl

/-- **Every authorization is taken for one thing.** The token of a call counts as missing exactly if
the first value is absent, unreadable or blank; as malformed, before any key is asked for, exactly
if nothing but white space stands behind the first space of the value or the scheme is another one;
and otherwise exactly the text behind that space, without the white space around it, is verified. -/
theorem authorization_classified (settings : AuthSettings) (s : Surroundings) (c : Conversation) :
    let value := c.context.headers.first? Stage.authorizationHeader
    let extracted := bearerToken (c.context.headers.text? Stage.authorizationHeader)
    (extracted = .error .missingToken ↔ Lacks value) ∧
      (∀ words, extracted = .error (.malformedToken words) ↔ Misstates value words) ∧
      (∀ token, extracted = .ok token ↔ Bears value token) ∧
      (Lacks value → (Stage.auth settings).enter s c = Stage.settle s c (.error .missingToken)) ∧
      (∀ words, Misstates value words →
        (Stage.auth settings).enter s c = Stage.settle s c (.error (.malformedToken words))) ∧
      ∀ token, Bears value token →
        (Stage.auth settings).enter s c = Stage.settle s c (settings.verify s.unixTime token) := by
  intro value extracted
  have hlacks (h : Lacks value) : extracted = .error .missingToken := by
    show bearerToken _ = _
    rw [h.text?]
    rfl
  have hmisstates {words : String} (h : Misstates value words) :
      extracted = .error (.malformedToken words) := h.bearerToken
  have hbears {token : String} (h : Bears value token) : extracted = .ok token := h.bearerToken
  have henter : (Stage.auth settings).enter s c =
      Stage.settle s c (extracted >>= settings.verify s.unixTime) := Stage.enter_auth settings s c
  refine ⟨⟨fun h => ?_, hlacks⟩, fun words => ⟨fun h => ?_, hmisstates⟩,
    fun token => ⟨fun h => ?_, hbears⟩, fun h => ?_, fun words h => ?_, fun token h => ?_⟩
  · obtain h' | ⟨words, h'⟩ | ⟨token, h'⟩ := classes value
    · exact h'
    · cases h.symm.trans (hmisstates h')
    · cases h.symm.trans (hbears h')
  · obtain h' | ⟨words, h'⟩ | ⟨token, h'⟩ := classes value
    · cases h.symm.trans (hlacks h')
    · cases h.symm.trans (hmisstates h')
      exact h'
    · cases h.symm.trans (hbears h')
  · obtain h' | ⟨words, h'⟩ | ⟨token, h'⟩ := classes value
    · cases h.symm.trans (hlacks h')
    · cases h.symm.trans (hmisstates h')
    · cases h.symm.trans (hbears h')
      exact h'
  · rw [henter, hlacks h]
    rfl
  · rw [henter, hmisstates h]
    rfl
  · rw [henter, hbears h]
    rfl

/-- A bearer scheme and a space that nothing follows are not taken for a missing token. -/
theorem scheme_alone_not_missing :
    ¬∀ (h : Headers) (v : String) (scheme rest : List Char),
      Offers (h.first? Stage.authorizationHeader) v → Schemed v scheme rest → IsBearer scheme →
        AllBlank rest → bearerToken (h.text? Stage.authorizationHeader) = .error .missingToken := by
  intro hall
  have hgiven : Headers.first? ⟨[("authorization", "Bearer ")]⟩ Stage.authorizationHeader =
      some "Bearer " := by decide +kernel
  have hoffers : Offers (some "Bearer ") "Bearer " :=
    ⟨rfl, by simp [isReadable], fun hblank => absurd (hblank 'B' (by simp)) (by decide)⟩
  have hmissing := hall ⟨[("authorization", "Bearer ")]⟩ "Bearer " "Bearer".toList []
    (hgiven ▸ hoffers) ⟨by decide, by decide⟩ (by decide +kernel) nofun
  have hmalformed :
      bearerToken (Headers.text? ⟨[("authorization", "Bearer ")]⟩ Stage.authorizationHeader) =
        .error (.malformedToken "expected `Bearer <token>`") := by decide +kernel
  cases hmalformed.symm.trans hmissing

end RelationGate

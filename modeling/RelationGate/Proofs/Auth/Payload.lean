import RelationGate.Auth.Token
import RelationGate.Proofs.Json.Members
import RelationGate.Proofs.Outcome

/-!
# What a payload says

The payload of a token is read twice: once for its claims, and once for the members that are
compared. Both readings are told here by the members of the payload as they are written. It gives
claims if they say what the claims say (`Says`, `readPart_claims_iff`). It can be compared if it
gives none of the registered members twice and no `nbf` that holds anything
(`Registered`, `readPart_compared_iff`), and what is compared then stands in the claims
(`presented_eq_lookup`).
-/

namespace RelationGate

open Json Json.Reader Codec AuthSettings

/-! ## Parts that are documents -/

theorem readPart_eq_ok_iff {α : Type} {codec : Codec α} {part : List Char} {a : α} :
    readPart codec part = .ok a ↔
      ∃ bytes, partBytes part = .ok bytes ∧ ∃ c,
        Takes codec.read (.start bytes) a c ∧ c.pastBlanks.head? = none := by
  rw [readPart, bind_eq_ok_iff]
  simp only [mapError_eq_ok_iff, run_eq_ok_iff]

/-! ## Claims -/

/-- What claims say is what stands in the members of a payload: one `sub` that is a text, one `exp`
that fits a word, and whatever else there is. -/
structure Says (ms : List (String × Json)) (claims : Claims) : Prop where
  subject : valuesOf "sub" ms = [.str claims.subject]
  expiry : valuesOf "exp" ms = [.nat claims.expiry.toNat]
  extra : Json.ofMembers (ms.filter fun m => m.1 ≠ "sub" ∧ m.1 ≠ "exp") = .obj claims.extra

theorem takes?_text {j : Json} {s : String} : Codec.text.takes? j = some s ↔ j = .str s := by
  cases j with
  | str t => exact ⟨fun h => congrArg _ (Option.some.inj h), fun h => congrArg _ (Json.str.inj h)⟩
  | _ => exact iff_of_false nofun nofun

theorem takes?_word64_iff {j : Json} {n : UInt64} :
    Codec.word64.takes? j = some n ↔ j = .nat n.toNat := by
  rw [takes?_word64]
  constructor
  · rintro ⟨k, hk, rfl⟩
    cases j with
    | int i =>
      rw [natBelow] at hk
      split at hk
      · next hi =>
        cases hk
        rw [Json.nat, UInt64.toNat_ofNat_of_lt' (by omega), Int.toNat_of_nonneg hi.1]
      · cases hk
    | _ => cases hk
  · rintro rfl
    have hn : (n.toNat : Int) < UInt64.size := Int.ofNat_lt.2 n.toNat_lt_size
    refine ⟨n.toNat, ?_, UInt64.ofNat_toNat.symm⟩
    rw [Json.nat, natBelow, if_pos ⟨Int.natCast_nonneg _, hn⟩, Int.toNat_natCast]

/-- The fields of claims are filled from the members of their names. -/
theorem claims_fill_iff (ms : List (String × Json)) (values : Values [String, UInt64]) :
    let fields : Fields [String, UInt64] := (.required "sub" .text, .required "exp" .word64, ())
    (∃ slots, ms.foldlM (fun s m => Fields.fill m.1 m.2 [String, UInt64] fields
        (Codec.text.takes?, Codec.word64.takes?, ()) s) (none, none, ()) = some slots ∧
      Fields.complete [String, UInt64] fields slots = .ok values) ↔
    valuesOf "sub" ms = [.str values.1] ∧ valuesOf "exp" ms = [.nat values.2.1.toNat] := by
  intro fields
  obtain ⟨x, y, ⟨⟩⟩ := values
  have hcomplete (s : Option String) (e : Option UInt64) :
      Fields.complete [String, UInt64] fields (s, e, ()) = .ok (x, y, ()) ↔
        s = some x ∧ e = some y := by
    cases s with
    | none => exact iff_of_false nofun nofun
    | some s =>
      cases e with
      | none => exact iff_of_false nofun nofun
      | some e =>
        constructor
        · intro h
          cases h
          exact ⟨rfl, rfl⟩
        · rintro ⟨hs, he⟩
          cases hs
          cases he
          rfl
  constructor
  · rintro ⟨⟨s, e, ⟨⟩⟩, hslots, hvalues⟩
    obtain ⟨rfl, rfl⟩ := (hcomplete s e).1 hvalues
    rw [Fields.fill_cons_iff (by decide), Fields.fill_cons_iff (by decide)] at hslots
    obtain ⟨hsub, hexp, -⟩ := hslots
    obtain ⟨j, hj, hx⟩ := fillsSlot_some_iff.1 hsub
    obtain ⟨k, hk, hy⟩ := fillsSlot_some_iff.1 hexp
    obtain rfl := takes?_text.1 hx
    obtain rfl := takes?_word64_iff.1 hy
    exact ⟨hj, hk⟩
  · rintro ⟨hsub, hexp⟩
    refine ⟨(some x, some y, ()), ?_, (hcomplete _ _).2 ⟨rfl, rfl⟩⟩
    rw [Fields.fill_cons_iff (by decide), Fields.fill_cons_iff (by decide)]
    exact ⟨fillsSlot_some_iff.2 ⟨_, hsub, takes?_text.2 rfl⟩,
      fillsSlot_some_iff.2 ⟨_, hexp, takes?_word64_iff.2 rfl⟩, Fields.fill_nil⟩

theorem takes_claims_iff {c c' : Cursor} {claims : Claims} :
    Takes Claims.codec.read c claims c' ↔
      ∃ ms, Takes Codec.written.read c ms c' ∧ Says ms claims := by
  have hfields : Fields.Every (Copies value) [String, UInt64]
      (.required "sub" .text, .required "exp" .word64, ())
      (Codec.text.takes?, Codec.word64.takes?, ()) :=
    ⟨text_copies, word64_copies, trivial⟩
  have hothers (ms : List (String × Json)) :
      (ms.filter fun m => m.1 ∉ Fields.names [String, UInt64]
        (.required "sub" .text, .required "exp" .word64, ())) =
        ms.filter fun m => m.1 ≠ "sub" ∧ m.1 ≠ "exp" :=
    List.filter_congr fun m _ => by simp [Fields.names, RecordField.required]
  simp only [Claims.codec, takes_openRecord_iff hfields, hothers]
  constructor
  · rintro ⟨ms, slots, values, hms, hslots, hvalues, rfl⟩
    obtain ⟨hsub, hexp⟩ := (claims_fill_iff ms values).1 ⟨slots, hslots, hvalues⟩
    exact ⟨ms, hms, hsub, hexp, rfl⟩
  · rintro ⟨ms, hms, hsub, hexp, hextra⟩
    obtain ⟨slots, hslots, hvalues⟩ :=
      (claims_fill_iff ms (claims.subject, claims.expiry, ())).2 ⟨hsub, hexp⟩
    refine ⟨ms, slots, _, hms, hslots, hvalues, ?_⟩
    rw [Json.obj.inj hextra]

/-- **A payload is taken as claims** if its members say them. -/
theorem readPart_claims_iff {part : List Char} {claims : Claims} :
    readPart Claims.codec part = .ok claims ↔
      ∃ ms, readPart Codec.written part = .ok ms ∧ Says ms claims := by
  simp only [readPart_eq_ok_iff, takes_claims_iff]
  constructor
  · rintro ⟨bytes, hbytes, c, ⟨ms, hms, hsays⟩, hend⟩
    exact ⟨ms, ⟨bytes, hbytes, c, hms, hend⟩, hsays⟩
  · rintro ⟨ms, ⟨bytes, hbytes, c, hms, hend⟩, hsays⟩
    exact ⟨bytes, hbytes, c, ⟨ms, hms, hsays⟩, hend⟩

/-- A member of no name of its own is found in claims as it was last given. -/
theorem Says.lookup_extra {ms : List (String × Json)} {claims : Claims} {name : String}
    (h : Says ms claims) (hsub : name ≠ "sub") (hexp : name ≠ "exp") :
    claims.extra.lookup name = (valuesOf name ms).getLast? := by
  have hvalues :
      valuesOf name (ms.filter fun m => m.1 ≠ "sub" ∧ m.1 ≠ "exp") = valuesOf name ms := by
    rw [valuesOf, valuesOf, List.filter_filter]
    refine congrArg _ (List.filter_congr fun m _ => ?_)
    by_cases hm : m.1 = name <;> simp [hm, hsub, hexp]
  rw [← Json.obj.inj h.extra, lookup_foldl_insertMember, hvalues]
  exact Option.or_none

/-! ## Compared members -/

/-- A list or an object that is not empty. -/
def IsFilled : Json → Prop
  | .arr (_ :: _) => True
  | .obj (_ :: _) => True
  | _ => False

/-- What is made of a member that is not looked at. -/
def passedOver : Json → Option Json
  | .arr xs => if xs = [] then some .null else none
  | .obj ms => if ms = [] then some .null else none
  | j => some j

theorem passedOver_eq_none_iff {j : Json} : passedOver j = none ↔ IsFilled j := by
  cases j with
  | arr xs => cases xs <;> simp [passedOver, IsFilled]
  | obj ms => cases ms <;> simp [passedOver, IsFilled]
  | _ => exact iff_of_false nofun id

section

variable {c c' : Cursor}

/-- No document begins like the end of another one. -/
theorem valueWithin_head {levels : Nat} {j : Json} (h : Takes (valueWithin levels) c j c') :
    ∃ b, c.pastBlanks.head? = some b ∧ b ≠ 44 ∧ b ≠ 93 ∧ b ≠ 125 := by
  cases levels with
  | zero => cases takes_refuseNext h
  | succ levels =>
    obtain ⟨b, hb, hopens⟩ := takes_valueWithin_iff.1 h
    refine ⟨b, hb, ?_⟩
    cases hopens with
    | number hdigit _ =>
      exact ⟨ne_of_isDigitByte hdigit (by decide), ne_of_isDigitByte hdigit (by decide),
        ne_of_isDigitByte hdigit (by decide)⟩
    | _ => decide

theorem outcome_closeList_of_ne {b : UInt8} (h : c.pastBlanks.head? = some b) (hcomma : b ≠ 44)
    (hend : b ≠ 93) : (outcome closeList c).2 = c.pastBlanks := by
  have htoken : outcome token c = (.ok c.pastBlanks.head?, c.pastBlanks) := rfl
  rw [closeList, outcome_bind, htoken, h]
  dsimp only
  split
  · next hb => exact (hend (Option.some.inj hb)).elim
  · next hb => exact (hcomma (Option.some.inj hb)).elim
  · rfl
  · next hb => cases hb

theorem outcome_closeObject_of_ne {b : UInt8} (h : c.pastBlanks.head? = some b)
    (hend : b ≠ 125) : (outcome closeObject c).2 = c.pastBlanks := by
  have htoken : outcome token c = (.ok c.pastBlanks.head?, c.pastBlanks) := rfl
  rw [closeObject, outcome_bind, htoken, h]
  dsimp only
  split
  · next hb => exact (hend (Option.some.inj hb)).elim
  · rfl
  · rfl
  · next hb => cases hb

/-- A member that is not looked at is read like any other, if it is no list and no object. -/
theorem takes_readIgnored_of_scalar {b : UInt8} {j : Json} (hb : c.pastBlanks.head? = some b)
    (hlist : b ≠ '['.toUInt8) (hobject : b ≠ '{'.toUInt8) (h : Takes value c j c') :
    Takes readIgnored c j c' := by
  rw [Takes, readIgnored, outcome_tryCatch, show outcome (_ >>= _) c = (.ok j, c') from
    takes_opening_bind.2 ⟨b, hb, by
      rw [if_neg hlist, if_neg hobject]
      exact takes_value_pastBlanks.2 h⟩]

/-- In a list that is not looked at only the end is looked for. -/
theorem takes_readIgnored_of_list (hb : c.pastBlanks.head? = some '['.toUInt8)
    (hroom : 1 < c.pastBlanks.room) :
    Takes readIgnored c .null (outcome closeList c.pastBlanks.moved).2 := by
  obtain ⟨fault, hfault⟩ :=
    outcome_bracketed_reject (α := Json) (.invalidType .sequence "") closeList hroom
  rw [Takes, readIgnored, outcome_tryCatch, outcome_bind, takes_opening hb]
  dsimp only
  rw [if_pos rfl, inList, hfault]
  rfl

/-- In an object that is not looked at only the end is looked for. -/
theorem takes_readIgnored_of_object (hb : c.pastBlanks.head? = some '{'.toUInt8)
    (hroom : 1 < c.pastBlanks.room) :
    Takes readIgnored c .null (outcome closeObject c.pastBlanks.moved).2 := by
  obtain ⟨fault, hfault⟩ :=
    outcome_bracketed_reject (α := Json) (.invalidType .map "") closeObject hroom
  rw [Takes, readIgnored, outcome_tryCatch, outcome_bind, takes_opening hb]
  dsimp only
  rw [if_neg (by decide), if_pos rfl, inObject, hfault]
  rfl

theorem closed_inside (hroom : 1 < c.room) :
    c.moved.inside.pastBlanks.pastBlanks.moved.outside = c.moved.pastBlanks.moved := by
  rw [Cursor.pastBlanks_pastBlanks, Cursor.pastBlanks_inside, Cursor.moved_inside,
    Cursor.inside_outside]
  rw [Cursor.room_moved]
  show 0 < c.moved.room
  rw [Cursor.room_moved]
  omega

theorem jammed_of_head? {b : UInt8} (h : c.pastBlanks.head? = some b) (hcomma : b ≠ 44)
    (hbrace : b ≠ 125) : Jammed c.pastBlanks := by
  rw [Jammed, Cursor.pastBlanks_pastBlanks, h]
  exact ⟨fun h => hcomma (Option.some.inj h), fun h => hbrace (Option.some.inj h)⟩

/-- An empty list is passed over, and any other one is not. -/
theorem readIgnored_list_cases {levels : Nat} {xs : List Json}
    (hb : c.pastBlanks.head? = some '['.toUInt8)
    (h : Takes (inList (elements (valueWithin levels))) c.pastBlanks xs c') :
    ∃ d, Takes readIgnored c .null d ∧ (xs = [] ∧ d = c' ∨ xs ≠ [] ∧ Jammed d) := by
  obtain ⟨hroom, c₁, hxs, hend, rfl⟩ := takes_inList.1 h
  refine ⟨_, takes_readIgnored_of_list hb hroom, ?_⟩
  rw [elements, takes_unread_bind] at hxs
  obtain ⟨more, c₂, hmore, hxs⟩ := takes_bind.1 hxs
  obtain ⟨rfl, ⟨rfl, hbracket⟩ | ⟨rfl, -⟩⟩ := hasElement_first_cases hmore
  · obtain ⟨rfl, rfl⟩ := takes_pure.1 hxs
    rw [closed_inside hroom]
    have hclose : Takes closeList c.pastBlanks.moved () _ := takes_closeList.2 ⟨hbracket, rfl⟩
    exact .inl ⟨rfl, congrArg Prod.snd hclose⟩
  · obtain ⟨x, c₃, hx, hxs⟩ := takes_bind.1 hxs
    obtain ⟨xs', c₄, -, hxs⟩ := takes_bind.1 hxs
    obtain ⟨rfl, -⟩ := takes_pure.1 hxs
    obtain ⟨b, hhead, hcomma, hbracket, hbrace⟩ := valueWithin_head hx
    rw [Cursor.pastBlanks_pastBlanks] at hhead
    have hhead' : c.pastBlanks.moved.pastBlanks.head? = some b := hhead
    rw [outcome_closeList_of_ne hhead' hcomma hbracket]
    exact .inr ⟨List.cons_ne_nil _ _, jammed_of_head? hhead' hcomma hbrace⟩

theorem insertMember_ne_nil {name : String} {j : Json} {ms : List (String × Json)} :
    insertMember name j ms ≠ [] := by
  cases ms with
  | nil => exact List.cons_ne_nil _ _
  | cons m ms =>
    rw [insertMember]
    split
    · exact List.cons_ne_nil _ _
    split <;> exact List.cons_ne_nil _ _

/-- An empty object is passed over, and any other one is not. -/
theorem readIgnored_object_cases {levels : Nat} {found : List (String × Json)}
    (hb : c.pastBlanks.head? = some '{'.toUInt8)
    (h : Takes (inObject (members (fun name found => do
      colon
      return (name, ← valueWithin levels) :: found) [])) c.pastBlanks found c') :
    ∃ d, Takes readIgnored c .null d ∧
      (found = [] ∧ d = c' ∨ found ≠ [] ∧ Jammed d) := by
  obtain ⟨hroom, c₁, hfound, hend, rfl⟩ := takes_inObject.1 h
  refine ⟨_, takes_readIgnored_of_object hb hroom, ?_⟩
  rw [takes_members_iff] at hfound
  obtain ⟨more, c₂, hmore, hfound⟩ := takes_bind.1 hfound
  obtain ⟨rfl, ⟨rfl, hbrace⟩ | ⟨rfl, hquote⟩⟩ := hasMember_first_cases hmore
  · obtain ⟨rfl, rfl⟩ := takes_pure.1 hfound
    rw [closed_inside hroom]
    have hclose : Takes closeObject c.pastBlanks.moved () _ := takes_closeObject.2 ⟨hbrace, rfl⟩
    exact .inl ⟨rfl, congrArg Prod.snd hclose⟩
  · have hhead : c.pastBlanks.moved.pastBlanks.head? = some 34 := hquote
    rw [outcome_closeObject_of_ne hhead (by decide)]
    refine .inr ⟨?_, jammed_of_head? hhead (by decide) (by decide)⟩
    rw [if_pos rfl, takes_skip_bind] at hfound
    obtain ⟨name, c₃, -, hfound⟩ := takes_bind.1 hfound
    obtain ⟨found₁, c₄, hfirst, hfound⟩ := takes_bind.1 hfound
    have hcons {name : String} {found found' : List (String × Json)} {c c' : Cursor}
        (h : Takes (do colon; return (name, ← valueWithin levels) :: found) c found' c') :
        found' ≠ [] := by
      obtain ⟨_, _, -, h⟩ := takes_bind.1 h
      obtain ⟨_, _, -, h⟩ := takes_bind.1 h
      rw [(takes_pure.1 h).1]
      exact List.cons_ne_nil _ _
    have hstarted : found₁ ≠ [] := by
      dsimp only at hfirst
      exact hcons hfirst
    exact membersFrom_invariant (P := (· ≠ [])) (fun _ => hcons) hfound hstarted

end

/-- **A member that is not looked at** is passed over, unless it is a list or an object that is not
empty: what is in it is left unread, and no object goes on there. -/
theorem readIgnored_cases {c c' : Cursor} {j : Json} (h : Takes value c j c') :
    ∃ a d, Takes readIgnored c a d ∧
      (passedOver j = some a ∧ d = c' ∨ passedOver j = none ∧ Jammed d) := by
  obtain ⟨b, hb, hopens⟩ := takes_value_iff.1 h
  cases hopens with
  | list hxs =>
    obtain ⟨d, hd, ⟨rfl, rfl⟩ | ⟨hxs, hjam⟩⟩ := readIgnored_list_cases hb hxs
    · exact ⟨.null, d, hd, .inl ⟨rfl, rfl⟩⟩
    · exact ⟨.null, d, hd, .inr ⟨if_neg hxs, hjam⟩⟩
  | object hfound =>
    obtain ⟨d, hd, ⟨rfl, rfl⟩ | ⟨hfound, hjam⟩⟩ := readIgnored_object_cases hb hfound
    · exact ⟨.null, d, hd, .inl ⟨rfl, rfl⟩⟩
    · refine ⟨.null, d, hd, .inr ⟨if_neg ?_, hjam⟩⟩
      obtain ⟨m, found, rfl⟩ := List.exists_cons_of_ne_nil hfound
      rw [List.reverse_cons, List.foldl_append]
      exact insertMember_ne_nil
  | number hdigit hnumber =>
    refine ⟨j, c', takes_readIgnored_of_scalar hb (ne_of_isDigitByte hdigit (by decide))
      (ne_of_isDigitByte hdigit (by decide)) h, .inl ?_⟩
    cases number_isNumber hnumber <;> exact ⟨rfl, rfl⟩
  | negative hnumber =>
    refine ⟨j, c', takes_readIgnored_of_scalar hb (by decide) (by decide) h, .inl ?_⟩
    cases number_isNumber hnumber <;> exact ⟨rfl, rfl⟩
  | _ =>
    exact ⟨_, c', takes_readIgnored_of_scalar hb (by decide) (by decide) h, .inl ⟨rfl, rfl⟩⟩

theorem readIgnored_follows : Follows value readIgnored passedOver where
  takes h hj := by
    obtain ⟨a, d, hd, ⟨ha, rfl⟩ | ⟨hnone, -⟩⟩ := readIgnored_cases h
    · cases hj.symm.trans ha
      exact hd
    · cases hj.symm.trans hnone
  jams h hj hb := by
    obtain ⟨a, d, hd, ⟨ha, -⟩ | ⟨-, hjam⟩⟩ := readIgnored_cases h
    · cases hj.symm.trans ha
    · rw [← (hd.unique hb).2]
      exact hjam

/-- A payload that can be compared: none of the registered members is repeated, and `nbf` is no list
and no object with anything in it. -/
structure Registered (ms : List (String × Json)) : Prop where
  once : ∀ name ∈ ["exp", "nbf", "sub", "iss", "aud"], (valuesOf name ms).length ≤ 1
  notBefore : ∀ j ∈ valuesOf "nbf" ms, ¬IsFilled j

/-- The document of a name, if there is one that is not null. -/
def presented (name : String) (ms : List (String × Json)) : Option Json :=
  (valuesOf name ms).head?.bind given

/-- What is compared is found in claims. -/
theorem presented_eq_lookup {ms : List (String × Json)} {claims : Claims} {name : String}
    (h : Says ms claims) (hregistered : Registered ms) (hname : name ∈ ["iss", "aud"]) :
    presented name ms = (claims.extra.lookup name).bind given := by
  have hne : name ≠ "sub" ∧ name ≠ "exp" := by
    simp only [List.mem_cons, List.not_mem_nil, or_false] at hname
    rcases hname with rfl | rfl <;> decide
  have honce := hregistered.once name <| by
    simp only [List.mem_cons, List.not_mem_nil, or_false] at hname ⊢
    exact .inr (.inr (.inr hname))
  rw [presented, h.lookup_extra hne.1 hne.2]
  match valuesOf name ms, honce with
  | [], _ => rfl
  | [_], _ => rfl
  | _ :: _ :: _, honce => exact absurd honce (by simp)

theorem fillsSlot_optional_iff {js : List Json} {slot : Option (Option Json)} :
    FillsSlot Codec.any.optional.takes? none js slot ↔
      js.length ≤ 1 ∧ slot = js.head?.map given := by
  rw [fillsSlot_none_iff]
  match js with
  | [] => simp
  | [j] => simp [takes?_optional_any]
  | j :: j' :: js => simp

theorem fillsSlot_passedOver_iff {js : List Json} {slot : Option Json} :
    FillsSlot passedOver none js slot ↔
      js.length ≤ 1 ∧ (∀ j ∈ js, ¬IsFilled j) ∧ slot = js.head?.bind passedOver := by
  rw [fillsSlot_none_iff]
  match js with
  | [] => simp
  | [j] =>
    simp only [← passedOver_eq_none_iff]
    cases hj : passedOver j <;> simp [hj]
  | j :: j' :: js => simp

theorem compared_fill_iff {ms : List (String × Json)} {e : Option (Option Json)} {n : Option Json}
    {s i a : Option (Option Json)} :
    ms.foldlM (fun s m => Fields.fill m.1 m.2 _ comparedFields
        (Codec.any.optional.takes?, passedOver, Codec.any.optional.takes?,
          Codec.any.optional.takes?, Codec.any.optional.takes?, ()) s)
        (none, none, none, none, none, ()) = some (e, n, s, i, a, ()) ↔
      Registered ms ∧ e = (valuesOf "exp" ms).head?.map given ∧
        n = (valuesOf "nbf" ms).head?.bind passedOver ∧
        s = (valuesOf "sub" ms).head?.map given ∧ i = (valuesOf "iss" ms).head?.map given ∧
        a = (valuesOf "aud" ms).head?.map given := by
  have honce : (∀ name ∈ ["exp", "nbf", "sub", "iss", "aud"], (valuesOf name ms).length ≤ 1) ↔
      (valuesOf "exp" ms).length ≤ 1 ∧ (valuesOf "nbf" ms).length ≤ 1 ∧
        (valuesOf "sub" ms).length ≤ 1 ∧ (valuesOf "iss" ms).length ≤ 1 ∧
        (valuesOf "aud" ms).length ≤ 1 := by simp
  rw [comparedFields, Fields.fill_cons_iff (by decide), Fields.fill_cons_iff (by decide),
    Fields.fill_cons_iff (by decide), Fields.fill_cons_iff (by decide),
    Fields.fill_cons_iff (by decide)]
  simp only [RecordField.optional, RecordField.defaulted, fillsSlot_optional_iff,
    fillsSlot_passedOver_iff]
  constructor
  · rintro ⟨⟨hexp, rfl⟩, ⟨hnbf, hfilled, rfl⟩, ⟨hsub, rfl⟩, ⟨hiss, rfl⟩, ⟨haud, rfl⟩, -⟩
    exact ⟨⟨honce.2 ⟨hexp, hnbf, hsub, hiss, haud⟩, hfilled⟩, rfl, rfl, rfl, rfl, rfl⟩
  · rintro ⟨hregistered, rfl, rfl, rfl, rfl, rfl⟩
    obtain ⟨hexp, hnbf, hsub, hiss, haud⟩ := honce.1 hregistered.once
    exact ⟨⟨hexp, rfl⟩, ⟨hnbf, hregistered.notBefore, rfl⟩, ⟨hsub, rfl⟩, ⟨hiss, rfl⟩, ⟨haud, rfl⟩,
      Fields.fill_nil⟩

theorem takes_compared_iff {c c' c₁ : Cursor} {ms : List (String × Json)}
    {compared : Option Json × Option Json} (h : Takes Codec.written.read c ms c') :
    Takes comparedCodec.read c compared c₁ ↔
      (Registered ms ∧ compared = (presented "iss" ms, presented "aud" ms)) ∧ c₁ = c' := by
  have hfields : Fields.Every (Follows value) _ comparedFields
      (Codec.any.optional.takes?, passedOver, Codec.any.optional.takes?,
        Codec.any.optional.takes?, Codec.any.optional.takes?, ()) :=
    ⟨optional_any_copies.toFollows, readIgnored_follows, optional_any_copies.toFollows,
      optional_any_copies.toFollows, optional_any_copies.toFollows, trivial⟩
  have hcomplete (e : Option (Option Json)) (n : Option Json) (s i a : Option (Option Json)) :
      Fields.complete _ comparedFields (e, n, s, i, a, ()) =
        .ok (e.getD none, n.getD .null, s.getD none, i.getD none, a.getD none, ()) := by
    cases e <;> cases n <;> cases s <;> cases i <;> cases a <;> rfl
  have hpresented (name : String) :
      ((valuesOf name ms).head?.map given).getD none = presented name ms := by
    rw [presented]
    cases (valuesOf name ms).head? <;> rfl
  rw [comparedCodec, takes_record_iff hfields h]
  refine and_congr_left fun _ => ?_
  constructor
  · rintro ⟨⟨e, n, s, i, a, ⟨⟩⟩, values, hslots, hvalues, rfl⟩
    obtain ⟨hregistered, -, -, -, rfl, rfl⟩ := compared_fill_iff.1 hslots
    rw [hcomplete] at hvalues
    cases hvalues
    exact ⟨hregistered, Prod.ext (hpresented "iss") (hpresented "aud")⟩
  · rintro ⟨hregistered, rfl⟩
    refine ⟨_, _, compared_fill_iff.2 ⟨hregistered, rfl, rfl, rfl, rfl, rfl⟩, hcomplete .., ?_⟩
    exact Prod.ext (hpresented "iss").symm (hpresented "aud").symm

/-- **A payload is compared** if its members are registered, and then issuer and audience are those
of its members. -/
theorem readPart_compared_iff {part : List Char} {ms : List (String × Json)}
    {compared : Option Json × Option Json} (h : readPart Codec.written part = .ok ms) :
    readPart comparedCodec part = .ok compared ↔
      Registered ms ∧ compared = (presented "iss" ms, presented "aud" ms) := by
  obtain ⟨bytes, hbytes, c, hms, hend⟩ := readPart_eq_ok_iff.1 h
  rw [readPart_eq_ok_iff]
  simp only [hbytes, Except.ok.injEq, exists_eq_left', takes_compared_iff hms]
  constructor
  · rintro ⟨c₁, ⟨hcompared, rfl⟩, -⟩
    exact hcompared
  · exact fun hcompared => ⟨c, ⟨hcompared, rfl⟩, hend⟩

end RelationGate

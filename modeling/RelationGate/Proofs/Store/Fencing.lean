import Mathlib.Data.List.Induction
import Mathlib.Logic.Function.Basic
import RelationGate.Proofs.Store.Operations

/-!
# Fencing tokens

The history of the locks is the list of the exchanges that have gone through: to whom a lock was
handed out, which token was presented for it, and under which token it was handed out. The table of
the locks only keeps the end of it.

* `LockHistory`: what a history has to do with the backend that it has led to. The tokens come off
  the supply in their order, a lock is held under the token of its last exchange, whatever was
  presented was the token of the exchange before, and no exchange was made for a token still to be
  handed out.
* `LockHistory.exchange`: a successful acquisition adds an exchange.
* `LockHistory.eq_of_presented`: a token is exchanged at most once on the lock that it was handed
  out for.
* `LockHistory.acquire_stale`: a token that is not the last one of its lock is refused.
-/

namespace RelationGate

/-- A lock that was handed out: to which caller, and for which token. -/
structure Exchange where
  caller : Nat
  identifier : String
  presented : Option LockToken
  token : LockToken
  deriving DecidableEq

/-! ## The last exchange of a lock -/

/-- The last exchange of a lock. -/
def lastOf (identifier : String) (log : List Exchange) : Option Exchange :=
  (log.filter (·.identifier = identifier)).getLast?

variable {identifier : String} {log : List Exchange} {d e : Exchange} {i j k : Nat}

theorem lastOf_concat (identifier : String) (log : List Exchange) (e : Exchange) :
    lastOf identifier (log ++ [e]) =
      if e.identifier = identifier then some e else lastOf identifier log := by
  rw [lastOf, lastOf, List.filter_append]
  by_cases h : e.identifier = identifier
  · rw [if_pos h, List.filter_cons_of_pos (by simpa using h), List.filter_nil,
      List.getLast?_concat]
  · rw [if_neg h, List.filter_cons_of_neg (by simpa using h), List.filter_nil, List.append_nil]

/-- A place in a longer history is one of the shorter one, or the new one. -/
theorem getElem?_concat_cases {last : Exchange} (he : (log ++ [last])[k]? = some e) :
    log[k]? = some e ∨ k = log.length ∧ e = last := by
  have hlt := (List.getElem?_eq_some_iff.1 he).1
  rw [List.length_append, List.length_singleton] at hlt
  by_cases hk : k < log.length
  · rw [List.getElem?_append_left hk] at he
    exact .inl he
  · obtain rfl : k = log.length := by omega
    rw [List.getElem?_concat_length] at he
    exact .inr ⟨rfl, (Option.some.inj he).symm⟩

/-- The last exchange of a lock comes no earlier than any other one of it. -/
theorem lastOf_of_getElem? (he : log[i]? = some e) :
    ∃ j d, i ≤ j ∧ log[j]? = some d ∧ d.identifier = e.identifier ∧
      lastOf e.identifier log = some d := by
  induction log using List.reverseRecOn with
  | nil => cases he
  | append_singleton log last ih =>
    have hplace := (List.getElem?_eq_some_iff.1 he).1
    rw [List.length_append, List.length_singleton] at hplace
    rw [lastOf_concat]
    by_cases h : last.identifier = e.identifier
    · rw [if_pos h]
      exact ⟨log.length, last, by omega, List.getElem?_concat_length, h, rfl⟩
    · obtain he | ⟨-, rfl⟩ := getElem?_concat_cases he
      · obtain ⟨j, d, hij, hd, hsame, hlast⟩ := ih he
        refine ⟨j, d, hij, ?_, hsame, by rw [if_neg h, hlast]⟩
        rw [List.getElem?_append_left (List.getElem?_eq_some_iff.1 hd).1, hd]
      · exact absurd rfl h

/-- An acquisition hands the lock out as the store says, or is refused. -/
theorem Backend.acquire_honest {b : Backend} (hechoes : b.echoesLocks = false)
    (identifier : String) (presented : Option LockToken) :
    (∃ store, b.store.acquire identifier presented (b.mint b.minted) =
          .ok (b.mint b.minted, store) ∧
        b.acquire identifier presented =
          (.ok (b.mint b.minted), { b with store, minted := b.minted + 1 })) ∨
      ∃ refusal, b.acquire identifier presented = (.error refusal, b) := by
  rw [Backend.acquire, hechoes, if_neg Bool.false_ne_true]
  cases b.checkAvailable with
  | error refusal => exact .inr ⟨refusal, rfl⟩
  | ok _ =>
    cases h : b.store.acquire identifier presented (b.mint b.minted) with
    | error refusal => exact .inr ⟨refusal, rfl⟩
    | ok handed =>
      obtain ⟨t, store⟩ := handed
      obtain ⟨-, -, rfl, -⟩ := Store.acquire_eq_ok_iff.1 h
      exact .inl ⟨store, rfl, rfl⟩

/-! ## Histories -/

/-- A history of exchanges, the first of them made for a certain token of the supply, and the
backend that it has led to. -/
structure LockHistory (first : Nat) (log : List Exchange) (b : Backend) : Prop where
  count : b.minted = first + log.length
  token : ∀ i e, log[i]? = some e → e.token = b.mint (first + i)
  named : ∀ e ∈ log, e.identifier.isEmpty = false
  holder : ∀ identifier, b.store.holder? identifier = (lastOf identifier log).map Exchange.token
  /-- What was presented was the token of the last exchange before, if there was one. -/
  current : ∀ k e, log[k]? = some e → ∀ t, e.presented = some t →
    ∀ d, lastOf e.identifier (log.take k) = some d → d.token = t
  /-- What was presented was not still to be handed out. -/
  fresh : ∀ k e, log[k]? = some e → ∀ n, first + k ≤ n → e.presented ≠ some (b.mint n)

namespace LockHistory

variable {first : Nat} {b b' : Backend}

/-- Before the first exchange. -/
theorem start (h : b.store.locks = []) : LockHistory b.minted [] b where
  count := rfl
  token _ _ h := by cases h
  named _ h := by cases h
  holder identifier := by rw [Store.holder?, h]; rfl
  current _ _ h := by cases h
  fresh _ _ h := by cases h

/-- Something else happens to the backend. -/
theorem of_same (h : LockHistory first log b) (hlocks : b'.store.locks = b.store.locks)
    (hmint : b'.mint = b.mint) (hminted : b'.minted = b.minted) : LockHistory first log b' where
  count := hminted.trans h.count
  token := by rw [hmint]; exact h.token
  named := h.named
  holder identifier := by rw [Store.holder?, hlocks]; exact h.holder identifier
  current := h.current
  fresh := by rw [hmint]; exact h.fresh

/-- **An acquisition that goes through** adds an exchange. -/
theorem exchange (h : LockHistory first log b) {presented : Option LockToken} {t : LockToken}
    {store : Store} (caller : Nat)
    (hacquire : b.store.acquire identifier presented (b.mint b.minted) = .ok (t, store))
    (hfresh : ∀ n, b.minted ≤ n → presented ≠ some (b.mint n))
    (hlocks : b'.store.locks = store.locks) (hmint : b'.mint = b.mint)
    (hminted : b'.minted = b.minted + 1) :
    LockHistory first (log ++ [⟨caller, identifier, presented, b.mint b.minted⟩]) b' := by
  obtain ⟨hname, hcurrent, -, rfl⟩ := Store.acquire_eq_ok_iff.1 hacquire
  refine ⟨?_, fun k e he => ?_, ?_, fun other => ?_, fun k e he t ht d hd => ?_,
    fun k e he n hn => ?_⟩
  · rw [hminted, h.count, List.length_append, List.length_singleton, Nat.add_assoc]
  · rw [hmint]
    obtain he | ⟨rfl, rfl⟩ := getElem?_concat_cases he
    · exact h.token k e he
    · rw [← h.count]
  · simp only [List.forall_mem_append, List.forall_mem_singleton]
    exact ⟨h.named, hname⟩
  · rw [Store.holder?, hlocks, Store.lookup_setLock, lastOf_concat]
    by_cases hother : other = identifier
    · rw [if_pos hother, if_pos hother.symm]
      rfl
    · rw [if_neg hother, if_neg (Ne.symm hother)]
      exact h.holder other
  · obtain he | ⟨rfl, rfl⟩ := getElem?_concat_cases he
    · rw [List.take_append_of_le_length (Nat.le_of_lt (List.getElem?_eq_some_iff.1 he).1)] at hd
      exact h.current k e he t ht d hd
    · rw [List.take_left] at hd
      have hheld := h.holder identifier
      rw [hd, Option.map_some] at hheld
      exact (hcurrent t ht d.token hheld).symm
  · rw [hmint]
    obtain he | ⟨rfl, rfl⟩ := getElem?_concat_cases he
    · exact h.fresh k e he n hn
    · exact hfresh n (h.count ▸ hn)

/-- The numbers of the tokens of two exchanges tell them apart. -/
theorem index_inj (h : LockHistory first log b) (hinj : Function.Injective b.mint)
    (hi : log[i]? = some d) (hj : log[j]? = some e) (hsame : d.token = e.token) : i = j := by
  rw [h.token i d hi, h.token j e hj] at hsame
  have hnumbers := hinj hsame
  omega

/-- **A token is exchanged at most once** on the lock that it was handed out for. -/
theorem eq_of_presented (h : LockHistory first log b) (hinj : Function.Injective b.mint)
    {issued : Exchange} (hissued : issued ∈ log) (hi : log[i]? = some d) (hk : log[k]? = some e)
    (hlock : d.identifier = issued.identifier) (hlock' : e.identifier = issued.identifier)
    (hd : d.presented = some issued.token) (he : e.presented = some issued.token) : i = k := by
  obtain ⟨j, hj⟩ := List.getElem?_of_mem hissued
  -- The one that comes first was made after the token had been handed out, and handed another one
  -- out, so that the token was not the last one any more when the other was made.
  have hlater : ∀ {i k : Nat} {d e : Exchange}, log[i]? = some d → log[k]? = some e →
      d.identifier = e.identifier → d.presented = some issued.token →
      e.presented = some issued.token → ¬ i < k := fun {i k d e} hi hk hsame hd he hlt => by
    have hji : j < i := by
      by_contra hij
      refine h.fresh i d hi (first + j) (by omega) ?_
      rw [hd, h.token j issued hj]
    have htake : (log.take k)[i]? = some d := by rw [List.getElem?_take_of_lt hlt, hi]
    obtain ⟨m, last, him, hm, -, hlast⟩ := lastOf_of_getElem? htake
    have hmk : m < k := by
      have hlength := (List.getElem?_eq_some_iff.1 hm).1
      rw [List.length_take] at hlength
      omega
    rw [List.getElem?_take_of_lt hmk] at hm
    rw [hsame] at hlast
    have hmj := h.index_inj hinj hm hj (h.current k e hk _ he last hlast)
    omega
  have hsame := hlock.trans hlock'.symm
  have h₁ := hlater hi hk hsame hd he
  have h₂ := hlater hk hi hsame.symm he hd
  omega

/-- **A token that is not the last one of its lock is refused**, and nothing is changed. -/
theorem acquire_stale (h : LockHistory first log b) (hinj : Function.Injective b.mint)
    (hechoes : b.echoesLocks = false) (hlt : i < k) (hi : log[i]? = some d) (hk : log[k]? = some e)
    (hlock : e.identifier = d.identifier) :
    (b.isAvailable = true → b.acquire d.identifier (some d.token) =
        (.error ⟨.failedPrecondition, "stale fencing token for lock " ++ d.identifier⟩, b)) ∧
      ∃ refusal, b.acquire d.identifier (some d.token) = (.error refusal, b) := by
  obtain ⟨m, last, hkm, hm, -, hlast⟩ := lastOf_of_getElem? hk
  have hheld := h.holder d.identifier
  rw [← hlock, hlast, Option.map_some, hlock] at hheld
  have hne : d.token ≠ last.token := fun hsame => by
    have him := h.index_inj hinj hi hm hsame
    omega
  have hname := h.named d (List.mem_of_getElem? hi)
  have hrefused : b.store.acquire d.identifier (some d.token) (b.mint b.minted) =
      .error ⟨.failedPrecondition, "stale fencing token for lock " ++ d.identifier⟩ := by
    unfold Store.acquire
    rw [hname, if_neg Bool.false_ne_true]
    simp only [hheld]
    exact if_neg hne
  rw [Backend.acquire, hechoes, if_neg Bool.false_ne_true, Backend.checkAvailable]
  cases b.isAvailable with
  | true => simp [hrefused]
  | false => simp

end LockHistory

end RelationGate

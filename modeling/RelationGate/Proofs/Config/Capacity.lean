import Mathlib.Tactic.SplitIfs
import RelationGate.Config.Settings
import RelationGate.Lookup
import RelationGate.Proofs.Outcome

/-!
# Which settings can serve lookups

Settings are accepted if the three numbers that have to be positive are (`check_eq_ok_iff`). So the
ceiling on limits is the configured one, and neither of the two fallbacks for zero ever applies: the
one of the ceiling, and the one of the channel between a lookup and its consumer. But nothing bounds
the capacity of that channel from above, and a channel beyond `Channel.maxCapacity` cannot be made.
With settings beyond it every lookup whose query is in order brings its caller down; with all others
every such lookup starts, with room for exactly as many items as configured.

Main result: `lookups_served_iff`.
-/

namespace RelationGate

namespace LimitPolicy

/-- A ceiling that is not zero is taken as it is. -/
theorem ofCeiling_ceiling {n : UInt32} (h : n ≠ 0) : (ofCeiling n).ceiling = n := by
  rw [ofCeiling, dif_neg h]

end LimitPolicy

namespace Channel

/-- A capacity that is not zero is taken as it is. -/
theorem ofCapacity_capacity {α : Type} {n : Nat} (h : 0 < n) :
    (ofCapacity n : Channel α).capacity = n := Nat.max_eq_left h

end Channel

namespace DaemonSettings

variable {s : DaemonSettings} {text : String}

/-- **The check** asks for no more than that three numbers are positive. -/
theorem check_eq_ok_iff :
    s.check = .ok () ↔
      s.lookup.maxLimit ≠ 0 ∧ s.lookup.buffer ≠ 0 ∧ s.server.requestTimeoutMs ≠ 0 := by
  rw [check]
  split_ifs <;> simp_all

theorem ofText_eq_ok_iff :
    ofText text = .ok s ↔ (Toml.read text).bind ofMembers = some s ∧ s.check = .ok () := by
  delta ofText
  cases (Toml.read text).bind ofMembers with
  | none => exact iff_of_false nofun nofun
  | some read =>
    rw [bind_eq_ok_iff, Option.some.injEq]
    constructor
    · rintro ⟨⟨⟩, hcheck, hread⟩
      cases hread
      exact ⟨rfl, hcheck⟩
    · rintro ⟨rfl, hcheck⟩
      exact ⟨(), hcheck, rfl⟩

end DaemonSettings

namespace Lookup

variable {settings : LookupSettings} {q : StreamQuery}

theorem start_of_invalid {e : BackendError} (h : q.validate = .error e) :
    start settings q = .answered (.error (e.within q.activity)) := by
  rw [start, h]

theorem start_of_valid (h : q.validate = .ok ()) :
    start settings q =
      if Channel.maxCapacity < settings.buffer then .panicked Channel.overflowWords
      else .answered (.ok (fresh q (settings.limits.resolve q) settings.buffer)) := by
  rw [start, h]

/-- **What brings the caller of a lookup down** when it is started. -/
theorem start_panics_iff :
    (∃ words, start settings q = .panicked words) ↔
      q.validate = .ok () ∧ Channel.maxCapacity < settings.buffer := by
  cases hvalid : q.validate with
  | error e => exact iff_of_false (by rw [start_of_invalid hvalid]; exact nofun) nofun
  | ok =>
    rw [start_of_valid hvalid]
    by_cases hbeyond : Channel.maxCapacity < settings.buffer
    · rw [if_pos hbeyond]
      exact iff_of_true ⟨_, rfl⟩ ⟨rfl, hbeyond⟩
    · rw [if_neg hbeyond]
      exact iff_of_false nofun fun h => hbeyond h.2

end Lookup

/-- **Accepted settings serve lookups exactly if a channel of their capacity can be made.** With
any settings that are accepted the ceiling is the configured one. If the capacity of the channel is
in range, no lookup of any kind brings its caller down, and each whose query is in order starts with
the limit that the ceiling resolves and with room for exactly as many items as configured; if it is
beyond the range, each of them brings its caller down. -/
theorem lookups_served_iff {text : String} {s : DaemonSettings}
    (h : DaemonSettings.ofText text = .ok s) :
    s.lookupSettings.limits.ceiling = s.lookup.maxLimit ∧
      ((∀ q words, Lookup.start s.lookupSettings q ≠ .panicked words) ↔
        s.lookup.buffer.toNat ≤ Channel.maxCapacity) ∧
      ∀ q : StreamQuery, q.validate = .ok () →
        if s.lookup.buffer.toNat ≤ Channel.maxCapacity then
          ∃ lookup, Lookup.start s.lookupSettings q = .answered (.ok lookup) ∧
            lookup.state? = some .created ∧ lookup.query = q ∧
            lookup.limit = s.lookupSettings.limits.resolve q ∧
            lookup.results.channel.capacity = s.lookup.buffer.toNat
        else Lookup.start s.lookupSettings q = .panicked Channel.overflowWords := by
  obtain ⟨-, hcheck⟩ := DaemonSettings.ofText_eq_ok_iff.1 h
  obtain ⟨hlimit, hbuffer, -⟩ := DaemonSettings.check_eq_ok_iff.1 hcheck
  have hpositive : 0 < s.lookupSettings.buffer :=
    Nat.pos_of_ne_zero fun hzero => hbuffer (UInt64.toNat_inj.1 hzero)
  refine ⟨LimitPolicy.ofCeiling_ceiling hlimit,
    ⟨fun hstarts => ?_, fun hrange q words hstart => ?_⟩, fun q hvalid => ?_⟩
  · refine Nat.not_lt.1 fun hbeyond => ?_
    let q : StreamQuery := .read ⟨.forType "document", .minimizeLatency, none⟩
    have hvalid : q.validate = .ok () := rfl
    obtain ⟨words, hwords⟩ : ∃ words, Lookup.start s.lookupSettings q = .panicked words :=
      Lookup.start_panics_iff.2 ⟨hvalid, hbeyond⟩
    exact hstarts _ words hwords
  · exact Nat.not_lt.2 hrange (Lookup.start_panics_iff.1 ⟨words, hstart⟩).2
  · rw [Lookup.start_of_valid hvalid]
    split_ifs with hrange hbeyond hbeyond
    · exact absurd hrange (Nat.not_le.2 hbeyond)
    · exact ⟨_, rfl, rfl, rfl, rfl, Channel.ofCapacity_capacity hpositive⟩
    · rfl
    · exact absurd (Nat.lt_of_not_le hrange) hbeyond

/-- A capacity of `Channel.maxCapacity + 1` is accepted, and the next lookup brings its caller
down. -/
theorem lookups_served_iff_beyond :
    let text := "[lookup]\nchannel_capacity = 2305843009213693952\n"
    let query : StreamQuery := .read ⟨.forType "document", .minimizeLatency, none⟩
    ∃ s, DaemonSettings.ofText text = .ok s ∧ s.lookupSettings.limits.ceiling = 1000 ∧
      Lookup.start s.lookupSettings query = .panicked Channel.overflowWords := by
  intro text query
  have hread : (DaemonSettings.ofText text).toOption.map (·.lookup) =
      some ⟨1000, 2305843009213693952⟩ := by decide +kernel
  obtain ⟨s, hs, hlookup⟩ := exists_ok_of_toOption_map hread
  obtain ⟨hceiling, -, hstart⟩ := lookups_served_iff hs
  have hbeyond : ¬s.lookup.buffer.toNat ≤ Channel.maxCapacity := by
    rw [hlookup]
    decide +kernel
  refine ⟨s, hs, hceiling.trans (by rw [hlookup]), ?_⟩
  have hpanics := hstart query rfl
  rwa [if_neg hbeyond] at hpanics

end RelationGate

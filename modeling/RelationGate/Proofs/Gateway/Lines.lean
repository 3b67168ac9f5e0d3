import RelationGate.Gateway.Server
import RelationGate.Proofs.Json.Writing
import RelationGate.Proofs.Wire.RoundTrip

/-!
# A streamed reply, line by line

A streamed reply is one envelope a line. No envelope holds a line break, whatever its texts hold
(`ReplyEnvelope.newline_notMem`), so the line breaks of the body stand behind the envelopes and
nowhere else, and cutting it there gives the lines (`Gateway.splitOn_lines`). A line is read back as
the envelope that it is (`ReplyEnvelope.reads`): that of a failure always, that of a result if the
result holds no numbers and is not null, which is so for every streamed item
(`Item.encode_numberless`, `Item.encode_ne_null`).

Main result: `Gateway.lines_lossless`.
-/

namespace RelationGate

open Json Json.Reader Text

/-! ## The text of an envelope -/

namespace Json

theorem separated_eq_intercalate (pieces : List (List Char)) :
    separated pieces = [','].intercalate pieces := by
  cases pieces with
  | nil => rfl
  | cons piece pieces =>
    induction pieces generalizing piece with
    | nil => simp [separated]
    | cons piece' pieces ih =>
      rw [List.intercalate_cons_cons, ← ih, separated_cons, separated_cons, behindCommas_cons]
      simp

/-- An object in a given order is written like any other one. -/
theorem toList_objectText (ms : List (String × String)) :
    (objectText ms).toList = objectChars (ms.map fun m => (m.1, m.2.toList)) := by
  have hpieces : (ms.map fun m => String.ofList (quotedChars m.1) ++ ":" ++ m.2).map String.toList =
      (ms.map fun m => (m.1, m.2.toList)).map memberText := by
    rw [List.map_map, List.map_map]
    refine List.map_congr_left fun m _ => ?_
    simp [memberText]
  rw [objectText, String.toList_append, String.toList_append, String.toList_intercalate, hpieces,
    objectChars, separated_eq_intercalate]
  rfl

@[simp] theorem toList_text (j : Json) : j.text.toList = chars j := String.toList_ofList

end Json

/-! ## Items -/

theorem ObjectRef.codec_isNumberless (k : Nat) : ObjectRef.codec.IsNumberless (k + 1) :=
  Codec.record_isNumberless (by decide)
    ⟨Codec.text_isNumberless, Codec.text_isNumberless, trivial⟩

theorem SubjectRef.codec_isNumberless (k : Nat) : SubjectRef.codec.IsNumberless (k + 2) :=
  Codec.record_isNumberless (by decide)
    ⟨ObjectRef.codec_isNumberless k, Codec.text_isNumberless.optional, trivial⟩

theorem Relationship.codec_isNumberless (k : Nat) : Relationship.codec.IsNumberless (k + 3) :=
  Codec.record_isNumberless (by decide)
    ⟨ObjectRef.codec_isNumberless (k + 1), Codec.text_isNumberless, SubjectRef.codec_isNumberless k,
      trivial⟩

theorem Hit.codec_isNumberless {α : Type} {k : Nat} {names : HitNames} {c : Codec α}
    (h : c.IsNumberless k) (hnames : [names.value, "continuation_token", names.readAt].Nodup) :
    (Hit.codec names c).IsNumberless (k + 1) :=
  Codec.record_isNumberless hnames
    ⟨h, Codec.text_isNumberless.map, Codec.text_isNumberless.map, trivial⟩

/-- **The document of an item** holds no numbers. -/
theorem Item.encode_numberless (item : Item) : Numberless 4 item.encode := by
  cases item with
  | subject h => exact Hit.codec_isNumberless (SubjectRef.codec_isNumberless 1) (by decide) h
  | resource h => exact Hit.codec_isNumberless (ObjectRef.codec_isNumberless 2) (by decide) h
  | relationship h => exact Hit.codec_isNumberless (Relationship.codec_isNumberless 0) (by decide) h

theorem Item.encode_ne_null (item : Item) : item.encode ≠ .null := by
  cases item <;> exact nofun

/-- The item is taken from a document. -/
def Item.TakenFrom (j : Json) : Item → Prop
  | .subject h => subjectHitCodec.decode j = .ok h
  | .resource h => resourceHitCodec.decode j = .ok h
  | .relationship h => relationshipHitCodec.decode j = .ok h

theorem Item.takenFrom_encode (item : Item) : item.TakenFrom item.encode := by
  cases item with
  | subject h => exact Hit.codec_roundTrips SubjectRef.codec_roundTrips (by decide) h
  | resource h => exact Hit.codec_roundTrips ObjectRef.codec_roundTrips (by decide) h
  | relationship h => exact Hit.codec_roundTrips Relationship.codec_roundTrips (by decide) h

/-! ## Errors -/

/-- The written members of an error. -/
def WireError.written (e : WireError) : List (String × List Char) :=
  [("code", quotedChars e.code), ("reason", quotedChars e.reason),
    ("message", quotedChars e.message)]

theorem ReplyEnvelope.toList_errorText (e : WireError) :
    (errorText e).toList = objectChars e.written := by
  rw [errorText, toList_objectText]
  simp [WireError.written, chars]

/-- **An error is read back.** -/
theorem WireError.reads (e : WireError) :
    Reads 1 Anything WireError.codec.read (bytesOf (objectChars e.written)) e :=
  Codec.record_reads (k := 0)
    (.written (Codec.text_reads _) (.written (Codec.text_reads _)
      (.written (Codec.text_reads _) .nil)))
    (by decide)

theorem WireError.newline_notMem (e : WireError) : '\n' ∉ objectChars e.written :=
  newline_notMem_objectChars (by simp [WireError.written, newline_notMem_quotedChars])

/-! ## Envelopes -/

namespace ReplyEnvelope

/-- The written members of an envelope. -/
def written (r : ReplyEnvelope) : List (String × List Char) :=
  ("success", chars (.bool r.success)) ::
    ((r.result.map fun j => ("result", chars j)).toList ++
      (r.error.map fun e => ("error", objectChars e.written)).toList)

theorem toList_text (r : ReplyEnvelope) : r.text.toList = objectChars r.written := by
  obtain ⟨success, result, error⟩ := r
  rw [text, toList_objectText]
  cases result <;> cases error <;> simp [written, toList_errorText]

/-- **An envelope is read back** if its result holds no numbers and is not null. -/
theorem reads {r : ReplyEnvelope} (hresult : ∀ j ∈ r.result, Numberless 4 j ∧ j ≠ .null) :
    Reads 5 Anything codec.read (bytesOf r.text.toList) r := by
  obtain ⟨success, result, error⟩ := r
  have herror : Fields.InTurn 4 [Option WireError] (.optional "error" WireError.codec, ())
      (error, ()) (error.map fun e => ("error", objectChars e.written)).toList := by
    cases error with
    | none => exact .leftOut rfl .nil
    | some e =>
      exact .written (Codec.optional_reads (by decide) (by decide) (e.reads.mono (by decide))) .nil
  have hwritten : Fields.InTurn 4 [Bool, Option Json, Option WireError]
      (.required "success" .flag, .optional "result" .any, .optional "error" WireError.codec, ())
      (success, result, error, ()) (written ⟨success, result, error⟩) := by
    refine .written (Codec.flag_reads success) ?_
    cases result with
    | none => exact .leftOut rfl herror
    | some j =>
      obtain ⟨hj, hnull⟩ := hresult j rfl
      exact .written (Codec.optional_any_reads hj (by decide) hnull) herror
  rw [toList_text]
  exact Codec.record_reads hwritten (by decide)

/-- **An envelope holds no line break** if its result holds no numbers. -/
theorem newline_notMem {r : ReplyEnvelope} {k : Nat} (hresult : ∀ j ∈ r.result, Numberless k j) :
    '\n' ∉ r.text.toList := by
  rw [toList_text]
  refine newline_notMem_objectChars fun m hm => ?_
  simp only [written, List.mem_cons, List.mem_append, Option.mem_toList,
    Option.map_eq_some_iff] at hm
  obtain rfl | ⟨j, hj, rfl⟩ | ⟨e, -, rfl⟩ := hm
  · exact (Numberless.bool (k := 0) r.success).newline_notMem
  · exact (hresult j hj).newline_notMem
  · exact e.newline_notMem

end ReplyEnvelope

/-! ## Lines -/

namespace Gateway

/-- A byte that ends each line and stands nowhere else cuts the lines apart. -/
theorem splitOn_lines {lines : List (List UInt8)} {x : UInt8} (h : ∀ line ∈ lines, x ∉ line) :
    (lines.flatMap (· ++ [x])).splitOn x = lines ++ [[]] := by
  induction lines with
  | nil => exact List.splitOn_nil x
  | cons line lines ih =>
    obtain ⟨hline, hlines⟩ := List.forall_mem_cons.1 h
    rw [List.flatMap_cons, List.append_assoc, List.singleton_append,
      List.splitOn_append_cons_self_of_not_mem hline, ih hlines, List.cons_append]

theorem count_lines {lines : List (List UInt8)} {x : UInt8} (h : ∀ line ∈ lines, x ∉ line) :
    (lines.flatMap (· ++ [x])).count x = lines.length := by
  induction lines with
  | nil => rfl
  | cons line lines ih =>
    obtain ⟨hline, hlines⟩ := List.forall_mem_cons.1 h
    rw [List.flatMap_cons, List.count_append, List.count_append, List.count_eq_zero.2 hline,
      ih hlines, List.count_singleton_self, List.length_cons, Nat.zero_add, Nat.add_comm]

/-- The bytes of a frame. -/
def lineOf (frame : Frame) : List UInt8 := bytesOf (ReplyEnvelope.ofFrame frame).text.toList

/-- The bytes of a streamed reply: those of its frames, each with a line break behind it. -/
theorem bytes_lines (frames : List Frame) :
    (HttpResponse.lines frames).body.toUTF8.toList =
      (frames.map lineOf).flatMap (· ++ [10]) := by
  rw [toUTF8_toList, HttpResponse.lines, String.toList_join]
  induction frames with
  | nil => rfl
  | cons frame frames ih =>
    rw [List.map_cons, List.map_cons, List.flatMap_cons, List.flatMap_cons, bytesOf_append, ih,
      String.toList_append, bytesOf_append]
    rfl

/-- The line is that of the frame: reading it gives the envelope of a result, from which the item is
taken, or the envelope of a failure with its label, reason and message. -/
def Conveys (line : List UInt8) : Except CallError Item → Prop
  | .ok item =>
    Reader.run ReplyEnvelope.codec.read line = .ok ⟨true, some item.encode, none⟩ ∧
      item.TakenFrom item.encode
  | .error e =>
    Reader.run ReplyEnvelope.codec.read line =
      .ok ⟨false, none, some ⟨e.status.label, e.reason, e.message⟩⟩

/-- The result of an envelope, if it has one, is the document of an item: it holds no numbers and is
not null. -/
theorem result_ofFrame (frame : Except CallError Item) :
    ∀ j ∈ (ReplyEnvelope.ofFrame (frame.map Item.encode)).result, Numberless 4 j ∧ j ≠ .null := by
  intro j hj
  cases frame with
  | ok item =>
    cases hj
    exact ⟨item.encode_numberless, item.encode_ne_null⟩
  | error e => cases hj

theorem conveys_lineOf (frame : Except CallError Item) :
    Conveys (lineOf (frame.map Item.encode)) frame := by
  have hread : Reader.run ReplyEnvelope.codec.read (lineOf (frame.map Item.encode)) =
      .ok (.ofFrame (frame.map Item.encode)) :=
    (ReplyEnvelope.reads (result_ofFrame frame)).run (by decide)
  cases frame with
  | ok item => exact ⟨hread, item.takenFrom_encode⟩
  | error e => exact hread

theorem newline_notMem_lineOf (frame : Except CallError Item) :
    10 ∉ lineOf (frame.map Item.encode) := fun hmem =>
  ReplyEnvelope.newline_notMem (fun j hj => (result_ofFrame frame j hj).1)
    ((mem_bytesOf_iff (x := '\n') (by decide)).1 hmem)

/-- **A streamed reply is lossless, line by line.** Whatever results and failures it is made of, its
bytes hold one line break for each of them, and cutting them there gives their lines, in their
order, and nothing behind the last line break. -/
theorem lines_lossless (frames : List (Except CallError Item)) :
    let bytes := (HttpResponse.lines (frames.map fun f => f.map Item.encode)).body.toUTF8.toList
    bytes.count 10 = frames.length ∧
      ∃ lines, bytes = lines.flatMap (· ++ [10]) ∧ (∀ line ∈ lines, 10 ∉ line) ∧
        bytes.splitOn 10 = lines ++ [[]] ∧ List.Forall₂ Conveys lines frames := by
  intro bytes
  have hbytes : bytes = (frames.map fun f => lineOf (f.map Item.encode)).flatMap (· ++ [10]) := by
    have hmap := bytes_lines (frames.map fun f => f.map Item.encode)
    rwa [List.map_map] at hmap
  have hbreaks : ∀ line ∈ frames.map fun f => lineOf (f.map Item.encode), 10 ∉ line :=
    List.forall_mem_map.2 fun frame _ => newline_notMem_lineOf frame
  refine ⟨?_, _, hbytes, hbreaks, ?_, ?_⟩
  · rw [hbytes, count_lines hbreaks, List.length_map]
  · rw [hbytes, splitOn_lines hbreaks]
  · exact List.forall₂_map_left_iff.2 (List.forall₂_same.2 fun frame _ => conveys_lineOf frame)

end Gateway

end RelationGate

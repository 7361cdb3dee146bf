import IrcServer.Proofs.Encoding
import IrcServer.Proofs.Replay
import IrcServer.Proofs.Segments
import IrcServer.Proofs.Written
import Mathlib.Data.List.TakeWhile

namespace IrcServer

/-! What a client receives falls into the lines that were written for it.

No line holds an LF of its own, so the bytes of a client's output have one segment for each line,
and the reader gives back what was left of the line after the cut. -/

namespace Line

theorem byteLength_cut_le (text : Text) : (cut text).byteLength ≤ maxLineBytes - 2 :=
  Text.byteLength_takeBytes_le _ _

theorem byteLength_wire (line : Line) : line.wire.byteLength = (cut line.raw).byteLength + 2 := by
  rw [wire, Text.byteLength_append]
  rfl

/-- The bytes of a line end with the only LF among them. -/
theorem encode_wire (line : Line) :
    Utf8.encode line.wire = Utf8.encode (cut line.raw) ++ [carriageReturn] ++ [lineFeed] := by
  rw [wire, Utf8.encode_append, List.append_assoc]
  rfl

theorem ofSegment_wire (line : Line) :
    ReadLine.ofSegment maxLineBytes (Utf8.encode line.wire) =
      ⟨line.wire.byteLength, cut line.raw⟩ := by
  have room := byteLength_cut_le line.raw
  rw [← Utf8.length_encode] at room
  rw [ReadLine.ofSegment, Utf8.length_encode, encode_wire]
  simp [withoutLast, List.take_of_length_le room, Utf8.decode_encode]

theorem lineFeed_not_mem_content {line : Line} (clean : '\n' ∉ line.raw) :
    lineFeed ∉ Utf8.encode (cut line.raw) ++ [carriageReturn] := by
  have kept : lineFeed ∉ Utf8.encode (cut line.raw) := fun inside =>
    clean ((Text.takeBytes_prefix _ _).subset (Utf8.lineFeed_mem_encode.mp inside))
  have other : lineFeed ≠ carriageReturn := by decide
  simp [kept, other]

theorem segments_wires {lines : List Line} (clean : ∀ line ∈ lines, '\n' ∉ line.raw) :
    segments (Utf8.encode (lines.flatMap wire)) = lines.map fun line => Utf8.encode line.wire := by
  induction lines with
  | nil => exact segments_nil
  | cons line rest inductionHypothesis =>
      obtain ⟨first, others⟩ := List.forall_mem_cons.mp clean
      rw [List.flatMap_cons, Utf8.encode_append, encode_wire, List.append_assoc,
        List.singleton_append, segments_append (lineFeed_not_mem_content first), inductionHypothesis others, List.map_cons,
        encode_wire]

theorem readLines_wires {lines : List Line} (clean : ∀ line ∈ lines, '\n' ∉ line.raw)
    {chunks : List (List UInt8)} (arrived : chunks.flatten = Utf8.encode (lines.flatMap wire))
    (buffer : Text) :
    readLines maxLineBytes false buffer (chunks.map .bytes) =
      lines.map (fun line => (.line ⟨line.wire.byteLength, cut line.raw⟩, cut line.raw)) ++
        [(.line ⟨0, []⟩, [])] := by
  rw [readLines_bytes, readInto_cleared, arrived, segments_wires clean, List.map_map, List.map_map]
  simp only [Function.comp_def, ofSegment_wire]
  rfl

/-- The one LF of a line is its last byte. -/
theorem lineFeed_wire {line : Line} (clean : '\n' ∉ line.raw) :
    (Utf8.encode line.wire).getLast? = some lineFeed ∧
      lineFeed ∉ (Utf8.encode line.wire).dropLast := by
  rw [encode_wire, List.getLast?_concat, List.dropLast_concat]
  exact ⟨rfl, lineFeed_not_mem_content clean⟩

end Line

/-! No line that is read holds an LF. -/

namespace PartialLine

variable {line : PartialLine} {bytes : List UInt8}

theorem lineFeed_not_mem_text (clean : lineFeed ∉ line.kept) (limit : Nat) :
    '\n' ∉ line.text limit := by
  rw [text]
  apply Utf8.lineFeed_not_mem_decode
  intro member
  have inside := List.mem_of_mem_take member
  split at inside
  · exact clean ((List.dropLast_sublist _).subset inside)
  · exact clean inside

theorem lineFeed_not_mem_extend (clean : lineFeed ∉ line.kept) (more : lineFeed ∉ bytes)
    (limit : Nat) : lineFeed ∉ (line.extend limit bytes).kept := by
  intro member
  rcases List.mem_append.mp member with old | new
  · exact clean old
  · exact more (List.mem_of_mem_take new)

end PartialLine

theorem lineFeed_not_mem_readLine {limit : Nat} {line : PartialLine} {pieces rest : List Piece}
    {read : ReadLine} (clean : lineFeed ∉ line.kept)
    (known : readLine limit line pieces = (.line read, rest)) : '\n' ∉ read.text := by
  induction pieces generalizing line with
  | nil =>
      cases known
      exact PartialLine.lineFeed_not_mem_text clean limit
  | cons piece others inductionHypothesis =>
      cases piece with
      | failure error => cases known
      | bytes bytes =>
          rw [readLine] at known
          split at known
          · rename_i whole
            have more : lineFeed ∉ bytes := by
              have letters := List.dropWhile_eq_nil_iff.mp whole
              intro member
              simpa using letters lineFeed member
            exact inductionHypothesis (PartialLine.lineFeed_not_mem_extend clean more limit) known
          · have more : lineFeed ∉ bytes.takeWhile (· ≠ lineFeed) := by
              intro member
              simpa using List.all_eq_true.mp List.all_takeWhile lineFeed member
            cases known
            exact PartialLine.lineFeed_not_mem_text
              (PartialLine.lineFeed_not_mem_extend clean more limit) limit

/-- Whatever a stream brings, and whether it fails, no line that is read holds an LF. -/
theorem lineFeed_not_mem_readLines (limit : Nat) (keep : Bool) (buffer : Text)
    (pieces : List Piece) : ∀ result ∈ readLines limit keep buffer pieces,
      ∀ line, result.1 = .line line → '\n' ∉ line.text := by
  have clean : lineFeed ∉ PartialLine.empty.kept := List.not_mem_nil
  induction buffer, pieces using readLines.induct limit keep with
  | case1 buffer pieces error rest failed =>
      rw [readLines_failed failed]
      intro result member line same
      rw [List.mem_singleton.mp member] at same
      cases same
  | case2 buffer pieces line rest read ended =>
      obtain ⟨size, text⟩ := line
      cases ended
      rw [readLines_end read]
      intro result member line same
      rw [List.mem_singleton.mp member] at same
      cases same
      exact lineFeed_not_mem_readLine clean read
  | case3 buffer pieces cleared line rest read filled more inductionHypothesis =>
      rw [readLines_line read more]
      intro result member other same
      rcases List.mem_cons.mp member with rfl | later
      · cases same
        exact lineFeed_not_mem_readLine clean read
      · exact inductionHypothesis result later other same

/-- Nothing that an event brings holds an LF, and messages are read from lines without one. -/
def Event.Framed : Event → Prop
  | .connected host => '\n' ∉ host
  | .said _ message => ∃ line, '\n' ∉ line ∧ Message.parse? line = some message
  | .left _ error => ∀ text ∈ error, '\n' ∉ text
  | .lostQueue _ => True

theorem Event.Framed.lacks {event : Event} (framed : event.Framed) : event.Lacks '\n' := by
  cases event with
  | said number message =>
      obtain ⟨line, clean, parsed⟩ := framed
      apply Message.lacks_of_parse? (by decide) parsed
      exact fun inside => clean (Message.body_subset line inside)
  | connected | left | lostQueue => exact framed

theorem Buffer.text_ofLines (lines : List Line) :
    (Buffer.ofLines lines).text = lines.flatMap Line.wire := by
  have appended : ∀ buffer : Buffer,
      (lines.foldl Buffer.message buffer).text = buffer.text ++ lines.flatMap Line.wire := by
    induction lines with
    | nil => simp
    | cons line rest inductionHypothesis => simp [inductionHypothesis, Buffer.text_message]
  exact appended .empty

namespace Network

/-- What is read from lines without an LF is framed. -/
theorem framed_spoken {lines : List (Nat × Text)} (clean : ∀ line ∈ lines, '\n' ∉ line.2) :
    ∀ event ∈ spoken lines, event.Framed := by
  intro event member
  obtain ⟨line, said, made⟩ := List.mem_flatMap.mp member
  obtain ⟨message, parsed, rfl⟩ := List.mem_map.mp made
  exact ⟨line.2, clean line said, Option.mem_toList.mp parsed⟩

/-- All text that a client receives over a run. -/
def output (network : Network) (number : QueueId) : List Event → Text :=
  network.gathered fun network event => (network.step event).textFor number

theorem output_eq (network : Network) (number : QueueId) (events : List Event) :
    network.output number events = (network.heard number events).flatMap Line.wire := by
  induction events generalizing network with
  | nil => rfl
  | cons event rest inductionHypothesis =>
      rw [output, heard, gathered, gathered, List.flatMap_append, Outcome.textFor_eq]
      exact congrArg _ (inductionHypothesis _)

/-- Whatever clients say, the output of each is a run of lines: one for each line that was written
to its queue, of at most 512 bytes, and with no LF but the one it ends with.  Read with the same
limit, in whatever chunks it comes, it gives the content of each of these lines and no other.  The
lines that clients say are read in the same way, so none of them holds an LF. -/
theorem framing_is_intact (profile : Profile) (events : List Event) (number : QueueId)
    (domain : '\n' ∉ profile.domain) (createdAt : '\n' ∉ profile.createdAt)
    (framed : ∀ event ∈ events, event.Framed) :
    let network := Network.new profile
    let lines := network.gathered (fun network event =>
      if network.isListening number then linesTo number (network.sent event) else []) events
    let output := network.output number events
    output = lines.flatMap Line.wire ∧
    output = (Buffer.ofLines lines).text ∧
    (∀ line ∈ lines, line.wire = Line.cut line.raw ++ crlf ∧ Line.cut line.raw <+: line.raw ∧
      (Utf8.encode line.wire).length ≤ maxLineBytes ∧
      (Utf8.encode line.wire).getLast? = some lineFeed ∧
      lineFeed ∉ (Utf8.encode line.wire).dropLast) ∧
    (∀ (buffer : Text) (chunks : List (List UInt8)), chunks.flatten = Utf8.encode output →
      readLines maxLineBytes false buffer (chunks.map .bytes) =
        lines.map (fun line =>
          (.line ⟨line.wire.byteLength, Line.cut line.raw⟩, Line.cut line.raw)) ++
          [(.line ⟨0, []⟩, [])]) ∧
    ∀ (limit : Nat) (keep : Bool) (buffer : Text) (pieces : List Piece),
      ∀ result ∈ readLines limit keep buffer pieces,
        ∀ line, result.1 = .line line → '\n' ∉ line.text := by
  have written : (Network.new profile).gathered (fun network event =>
      if network.isListening number then linesTo number (network.sent event) else []) events =
        (Network.new profile).heard number events := by
    rw [heard]
    simp only [linesFor_step]
  have wordless : profile.Lacks '\n' :=
    ⟨domain, createdAt, fun _ _ _ => Text.lineFeed_not_mem_lines⟩
  have clean : ∀ line ∈ (Network.new profile).heard number events, '\n' ∉ line.raw :=
    Lacks.heard (by decide) wordless number events fun event member => (framed event member).lacks
  dsimp only
  rw [written, output_eq]
  refine ⟨rfl, (Buffer.text_ofLines _).symm, fun line member => ?_, fun buffer chunks arrived =>
    Line.readLines_wires clean arrived buffer, lineFeed_not_mem_readLines⟩
  have room := Line.byteLength_cut_le line.raw
  refine ⟨rfl, Text.takeBytes_prefix _ _, ?_, Line.lineFeed_wire (clean line member)⟩
  rw [Utf8.length_encode, Line.byteLength_wire]
  exact Nat.add_le_of_le_sub (by decide) room

/-- A CR in a text ends no line. -/
theorem framing_of_teaRun :
    let events := teaRun ++ spoken [(1, "PRIVMSG #tea :a\rQUIT :b")]
    let text : Text := ":Bert!b@west PRIVMSG #tea :a\rQUIT :b"
    ∃ others, readLines maxLineBytes false []
        ([Utf8.encode ((new teaProfile).output 0 events)].map .bytes) =
      others ++ [(.line ⟨38, text⟩, text)] ++ [(.line ⟨0, []⟩, [])] := by
  intro events text
  have framed : ∀ event ∈ events, event.Framed := by
    have hosts : ∀ event ∈ [Event.connected "east", .connected "west"], event.Framed := by
      simp [Event.Framed]
    have lines : ∀ line ∈ [(1, ("PRIVMSG #tea :a\rQUIT :b" : Text))], '\n' ∉ line.2 := by decide
    exact List.forall_mem_append.mpr ⟨List.forall_mem_append.mpr
      ⟨hosts, framed_spoken (by decide)⟩, framed_spoken lines⟩
  obtain ⟨_, _, _, read, _⟩ :=
    framing_is_intact teaProfile events 0 (by decide) (by decide) framed
  have last : (((new teaProfile).gathered (fun network event =>
      if network.isListening 0 then linesTo 0 (network.sent event) else []) events).map
        fun line => (ReadResult.line ⟨line.wire.byteLength, Line.cut line.raw⟩,
          Line.cut line.raw)).getLast? = some (.line ⟨38, text⟩, text) := by decide +kernel
  obtain ⟨others, same⟩ := List.getLast?_eq_some_iff.mp last
  use others
  rw [read [] [_] (List.append_nil _), same]

end Network

end IrcServer

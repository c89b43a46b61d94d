import CodeGateway.Proofs.PrintedCharacters
import CodeGateway.Proofs.PrintedJson
import CodeGateway.Proofs.ResponseLog

namespace CodeGateway.Agent

def Answer.result? : Answer → Option Json
  | .result json => some json
  | .error _ _ => none

def Answer.error? : Answer → Option Json
  | .result _ => none
  | .error code message => some (.object [("code", .int code), ("message", .string message)])

def Response.object (response : Response) : Json :=
  .object ((response.answer.error?.map (("error", ·))).toList ++
    (response.id.map (("id", ·))).toList ++ [("jsonrpc", .string "2.0")] ++
    (response.answer.result?.map (("result", ·))).toList)

theorem Response.encode_eq_object (response : Response) : response.encode = response.object := by
  obtain ⟨id, answer⟩ := response
  have idFirst : "id" < "jsonrpc" := by decide
  have resultLast : ¬ "result" < "jsonrpc" ∧ ¬ "result" < "id" := by decide
  have errorFirst : "error" < "jsonrpc" ∧ "error" < "id" := by decide
  cases id <;> cases answer <;>
    simp [Response.encode, Response.members, Response.object, Answer.members, Answer.result?,
      Answer.error?, Json.ofMembers, Json.insertMember, idFirst, resultLast, errorFirst]

theorem Response.plain_object {depth : Nat} {response : Response}
    (plainId : ∀ json ∈ response.id, Json.Plain depth json)
    (plainResult : ∀ json ∈ response.answer.result?, Json.Plain depth json)
    (plainError : ∀ json ∈ response.answer.error?, Json.Plain depth json) :
    Json.Plain (depth + 1) response.object := by
  refine .object ?_ fun member among => ?_
  · refine (List.pairwise_map (f := Prod.fst) (R := (· < ·))).mp ?_
    obtain ⟨id, answer⟩ := response
    cases id <;> cases answer <;>
      simp only [Answer.result?, Answer.error?, Option.map, Option.toList, List.map,
        List.nil_append, List.cons_append, List.append_nil] <;>
      decide
  · simp only [List.mem_append, Option.mem_toList, Option.map_eq_some_iff,
      List.mem_singleton] at among
    rcases among with ((⟨json, has, rfl⟩ | ⟨json, has, rfl⟩) | rfl) | ⟨json, has, rfl⟩
    · exact plainError json has
    · exact plainId json has
    · exact .string _
    · exact plainResult json has

theorem Response.plain_of_mem_members {depth : Nat} {response : Response}
    (plain : Json.Plain (depth + 1) response.object) {member : String × Json}
    (among : member ∈ response.members) : Json.Plain depth member.2 := by
  obtain ⟨id, answer⟩ := response
  unfold Response.object at plain
  cases plain with
  | object rising plain =>
    apply plain member
    cases id <;> cases answer <;>
      simp [Response.members, Answer.members, Answer.result?, Answer.error?] at among ⊢ <;>
      tauto

theorem Response.parse_text {response : Response}
    (plain : Json.Plain Json.maxDepth response.object) :
    Json.parse response.text = .ok response.object := by
  -- The object itself is one of the levels that the reader allows.
  have finds : Json.Finds (Json.value 126) (response.members.map Prod.snd) := by
    intro value within
    obtain ⟨member, among, rfl⟩ := List.mem_map.mp within
    have part := Response.plain_of_mem_members plain among
    exact ⟨⟨126, part⟩, fun rest => Json.value_text part⟩
  have read := Json.value_membersText finds []
  rw [List.append_nil] at read
  rw [← response.encode_eq_object, Json.parse, Json.maxDepth, Response.text, read]
  rfl

theorem Response.noControl_text (response : Response) :
    ∀ byte ∈ response.text, 0x20 ≤ byte.toNat :=
  NoControl.encode (.cons (by decide)
    (Json.noControl_membersText fun member _ => Json.noControl_text member.2))

theorem Response.not_mem_text (response : Response) {byte : UInt8} (control : byte.toNat < 0x20) :
    byte ∉ response.text := by
  intro member
  have printed := response.noControl_text byte member
  omega

theorem splitOn_lines (responses : List Response) :
    (responses.flatMap Response.line).splitOn 0x0A = responses.map Response.text ++ [[]] := by
  induction responses with
  | nil => rfl
  | cons response responses ih =>
    have noEnd : ∀ byte ∈ response.text, (byte == 0x0A) = false := by
      intro byte member
      rw [beq_eq_false_iff_ne]
      rintro rfl
      exact response.not_mem_text (by decide) member
    rw [List.flatMap_cons, Response.line, List.append_assoc, List.singleton_append, List.splitOn,
      List.splitOnP_append_cons_of_forall_mem noEnd 0x0A (by decide)]
    rw [← List.splitOn, ih]
    rfl

namespace Serving

theorem written_writes (serving : Serving) :
    (serving.runFrom (List.replicate serving.queued.length .write)).written = serving.output := by
  obtain ⟨server, retired, queued, written⟩ := serving
  induction queued generalizing written with
  | nil => simp [runFrom, output]
  | cons response queued ih =>
    have later := ih (written ++ [response])
    simpa [runFrom, output, step, write, List.replicate_succ] using later

/-- Whatever is sent after any state of the server: all of it leaves in the order in which it was
    sent, and the line ends in the output stand behind the responses and nowhere else. A response
    without doubles that nests at most 127 deep is what its piece of the output is read as. -/
theorem output_framed (serving : Serving) (events : List Event) :
    let after := serving.runFrom events
    let drained := after.runFrom (List.replicate after.queued.length .write)
    after.written ++ after.queued =
        serving.written ++ serving.queued ++ (serving.log events).map Prod.snd ∧
      after.bytes.splitOn 0x0A = after.written.map Response.text ++ [[]] ∧
      drained.bytes.splitOn 0x0A = (after.written ++ after.queued).map Response.text ++ [[]] ∧
      (∀ piece ∈ drained.bytes.splitOn 0x0A, 0x0A ∉ piece ∧ 0x0D ∉ piece) ∧
      ∀ response ∈ after.written ++ after.queued, Json.Plain Json.maxDepth response.object →
        Json.parse response.text = .ok response.object := by
  intro after drained
  have pieces : drained.bytes.splitOn 0x0A =
      (after.written ++ after.queued).map Response.text ++ [[]] := by
    rw [bytes, splitOn_lines, written_writes, output]
  refine ⟨output_runFrom serving events, splitOn_lines after.written, pieces, ?_, ?_⟩
  · intro piece among
    rw [pieces, List.mem_append, List.mem_map, List.mem_singleton] at among
    rcases among with ⟨response, -, rfl⟩ | rfl
    · exact ⟨response.not_mem_text (by decide), response.not_mem_text (by decide)⟩
    · exact ⟨List.not_mem_nil, List.not_mem_nil⟩
  · intro response _ plain
    exact Response.parse_text plain

/-- Responses with line ends, quotes, backslashes, a control character and a line separator in
    their texts, and identifiers of three kinds. -/
def awkwardResponses : List Response :=
  [⟨some (.string "1\r\n\"\\"), .result (.object [("text", .string "# One\r\n\u2028\u0001日😀\n")])⟩,
    ⟨some (.array [.null, .int (-1)]), .error invalidParamsCode "first\nsecond \"line\""⟩,
    ⟨none, .result .null⟩]

def awkwardServing : Serving :=
  { start ⟨[], .builtIn, []⟩ with queued := awkwardResponses }

theorem plain_awkwardResponses :
    ∀ response ∈ awkwardResponses, Json.Plain Json.maxDepth response.object := by
  have report : Json.Plain 126 (.object [("text", .string "# One\r\n\u2028\u0001日😀\n")]) :=
    .object (by simp) (by simpa using Json.Plain.string _)
  have pair : Json.Plain 126 (.array [.null, .int (-1)]) :=
    .array (by simpa using ⟨Json.Plain.null, Json.Plain.int (by decide)⟩)
  have fault : Json.Plain 126 (.object [("code", .int invalidParamsCode),
      ("message", .string "first\nsecond \"line\"")]) :=
    .object (by decide) (by simpa using ⟨Json.Plain.int (by decide), Json.Plain.string _⟩)
  intro response among
  simp only [awkwardResponses, List.mem_cons, List.not_mem_nil, or_false] at among
  rcases among with rfl | rfl | rfl <;> refine Response.plain_object ?_ ?_ ?_ <;> intro json has <;>
    cases has <;> first | assumption | constructor

theorem output_framed_awkward :
    (∀ response ∈ awkwardResponses, Json.Plain Json.maxDepth response.object) ∧
      (awkwardServing.runFrom (List.replicate 3 .write)).bytes.splitOn 0x0A =
        awkwardResponses.map Response.text ++ [[]] ∧
      ∀ response ∈ awkwardResponses, Json.parse response.text = .ok response.object := by
  obtain ⟨-, pieces, -, -, read⟩ := output_framed awkwardServing (List.replicate 3 .write)
  exact ⟨plain_awkwardResponses, pieces,
    fun response among => read response among (plain_awkwardResponses response among)⟩

end Serving

end CodeGateway.Agent

import CodeGateway.Proofs.FailureReports
import CodeGateway.Report.Markdown
import Mathlib.Data.List.TakeWhile

namespace CodeGateway

namespace Markdown

theorem lines_cons (c : Char) (rest : List Char) : lines (c :: rest) =
    if endsLine c rest.head? then [c] :: lines rest
    else match lines rest with
      | [] => [[c]]
      | line :: more => (c :: line) :: more := rfl

theorem lines_eq_nil_iff {text : List Char} : lines text = [] ↔ text = [] := by
  cases text with
  | nil => simp [lines]
  | cons c rest =>
    rw [lines_cons]
    split
    · simp
    · split <;> simp

theorem flatten_lines (text : List Char) : (lines text).flatten = text := by
  induction text with
  | nil => rfl
  | cons c rest ih =>
    rw [lines_cons]
    split
    · simp [ih]
    · split
      · rename_i none
        rw [lines_eq_nil_iff.mp none]
        rfl
      · rename_i line more some
        rw [some] at ih
        simpa using ih

theorem ne_nil_of_mem_lines {text line : List Char} (among : line ∈ lines text) : line ≠ [] := by
  induction text generalizing line with
  | nil => cases among
  | cons c rest ih =>
    rw [lines_cons] at among
    split at among
    · rcases List.mem_cons.mp among with rfl | among
      · exact List.cons_ne_nil _ _
      · exact ih among
    · split at among
      · rw [List.mem_singleton.mp among]
        exact List.cons_ne_nil _ _
      · rename_i first more some
        rcases List.mem_cons.mp among with rfl | among
        · exact List.cons_ne_nil _ _
        · exact ih (by rw [some]; exact List.mem_cons_of_mem _ among)

theorem lines_append (text rest : List Char) :
    lines (text ++ '\n' :: rest) = lines (text ++ ['\n']) ++ lines rest := by
  induction text with
  | nil => rfl
  | cons c text ih =>
    have next : (text ++ '\n' :: rest).head? = (text ++ ['\n']).head? := by
      cases text <;> rfl
    rw [List.cons_append, List.cons_append, lines_cons, lines_cons, ih, next]
    split
    · rw [List.cons_append]
    · cases some : lines (text ++ ['\n']) with
      | nil => simp [lines_eq_nil_iff] at some
      | cons line more => rfl

def closingLine : List Char := "\x60\x60\x60\n".toList

theorem closes_closingLine (count : Nat) : closes count closingLine = decide (count ≤ 3) := by
  simp [closes, closingLine, ticks, isTick, isPadding]

theorem eq_nil_of_flatten_eq_nil {parts : List (List Char)} (some : ∀ part ∈ parts, part ≠ [])
    (none : parts.flatten = []) : parts = [] := by
  cases parts with
  | nil => rfl
  | cons part rest =>
    rw [List.flatten_cons, List.append_eq_nil_iff] at none
    exact absurd none.1 (some part List.mem_cons_self)

theorem eq_of_flatten_eq {all first second : List (List Char)} (some : ∀ part ∈ all, part ≠ [])
    (isFirst : first <:+ all) (isSecond : second <:+ all) (same : first.flatten = second.flatten) :
    first = second := by
  have shorter {first second : List (List Char)} (isSecond : second <:+ all)
      (within : first <:+ second) (same : first.flatten = second.flatten) : first = second := by
    obtain ⟨more, rfl⟩ := within
    rw [List.flatten_append, List.self_eq_append_left] at same
    rw [eq_nil_of_flatten_eq_nil (fun part among =>
      some part (isSecond.subset (List.mem_append_left _ among))) same, List.nil_append]
  rcases List.suffix_or_suffix_of_suffix isFirst isSecond with within | within
  · exact shorter isSecond within same
  · exact (shorter isFirst within same.symm).symm

/-- Where a text is divided, after its lines of a kind, into just the characters that are wanted in
    front and behind, it is divided at the line that is wanted. -/
theorem divided_at {p : List Char → Bool} {more body behind : List (List Char)} {last : List Char}
    (some : ∀ line ∈ more ++ (body ++ last :: behind), line ≠ [])
    (front : ((more ++ (body ++ last :: behind)).takeWhile p).flatten = body.flatten)
    (back : (((more ++ (body ++ last :: behind)).dropWhile p).drop 1).flatten = behind.flatten) :
    more = [] ∧ (∀ line ∈ body, p line = true) ∧ p last = false := by
  have isBehind : behind <:+ more ++ (body ++ last :: behind) :=
    ((List.suffix_cons _ _).trans (List.suffix_append _ _)).trans (List.suffix_append _ _)
  have isBack := (List.drop_suffix 1 _).trans
    (List.dropWhile_suffix p (l := more ++ (body ++ last :: behind)))
  have same := eq_of_flatten_eq some isBack isBehind back
  have whole := List.takeWhile_append_dropWhile (p := p) (l := more ++ (body ++ last :: behind))
  have stop := List.head?_dropWhile_not p (more ++ (body ++ last :: behind))
  have inFront (line : List Char)
      (among : line ∈ (more ++ (body ++ last :: behind)).takeWhile p) : p line = true :=
    List.mem_takeWhile_imp among
  generalize (more ++ (body ++ last :: behind)).takeWhile p = before at *
  generalize (more ++ (body ++ last :: behind)).dropWhile p = after at *
  cases after with
  | nil =>
    -- Then everything would be in front, which is more than is wanted there.
    have length := congrArg (fun lines => lines.flatten.length) whole
    have least : 0 < last.length := List.length_pos_iff.mpr (some last (by simp))
    simp only [List.append_nil, front, List.flatten_append, List.flatten_cons,
      List.length_append] at length
    omega
  | cons line rest =>
    obtain rfl : rest = behind := same
    have parts : (before ++ [line]) ++ rest = ((more ++ body) ++ [last]) ++ rest := by
      simpa using whole
    obtain ⟨isBefore, isLast⟩ := List.append_inj' (List.append_cancel_right parts) rfl
    obtain rfl : line = last := List.singleton_inj.mp isLast
    rw [isBefore, List.flatten_append] at front
    obtain rfl := eq_nil_of_flatten_eq_nil
      (fun part among => some part (List.mem_append_left _ among))
      (List.self_eq_append_left.mp front.symm)
    rw [isBefore] at inFront
    exact ⟨rfl, inFront, stop⟩

section Fenced

variable {opening code after : List Char}

theorem lines_fenced (opening code after : List Char) :
    lines (opening ++ '\n' :: (code ++ '\n' :: (closingLine ++ after))) =
      lines (opening ++ ['\n']) ++ (lines (code ++ ['\n']) ++ closingLine :: lines after) := by
  have closing : lines (closingLine ++ after) = closingLine :: lines after :=
    lines_append "\x60\x60\x60".toList after
  rw [lines_append opening, lines_append code, closing]

theorem block?_fenced_iff :
    block? (opening ++ '\n' :: (code ++ '\n' :: (closingLine ++ after))) =
        some ⟨code ++ ['\n'], after⟩ ↔
      lines (opening ++ ['\n']) = [opening ++ ['\n']] ∧ opens (opening ++ ['\n']) = true ∧
        ticks (opening ++ ['\n']) = 3 ∧
        ∀ line ∈ lines (code ++ ['\n']), closes 3 line = false := by
  have all := lines_fenced opening code after
  unfold block?
  rw [all]
  constructor
  · intro read
    obtain ⟨first, more, isFirst⟩ : ∃ first more, lines (opening ++ ['\n']) = first :: more := by
      apply List.exists_cons_of_ne_nil
      simp [lines_eq_nil_iff]
    have some : ∀ line ∈ more ++ (lines (code ++ ['\n']) ++ closingLine :: lines after),
        line ≠ [] := by
      intro line among
      have isLine : line ∈ lines (opening ++ '\n' :: (code ++ '\n' :: (closingLine ++ after))) := by
        rw [all, isFirst, List.cons_append]
        exact List.mem_cons_of_mem _ among
      exact ne_nil_of_mem_lines isLine
    rw [isFirst, List.cons_append] at read
    dsimp only at read
    split at read
    · rename_i isOpening
      simp only [Option.some.injEq, Block.mk.injEq] at read
      obtain ⟨rfl, inside, closed⟩ := divided_at some
        (read.1.trans (flatten_lines _).symm) (read.2.trans (flatten_lines _).symm)
      have whole := flatten_lines (opening ++ ['\n'])
      rw [isFirst, List.flatten_singleton] at whole
      subst whole
      have most : ticks (opening ++ ['\n']) ≤ 3 := by
        simpa [closes_closingLine] using closed
      have least : 3 ≤ ticks (opening ++ ['\n']) := by
        simp only [opens, Bool.and_eq_true, decide_eq_true_eq] at isOpening
        exact isOpening.1
      have three : ticks (opening ++ ['\n']) = 3 := by omega
      rw [three] at inside
      exact ⟨isFirst, isOpening, three, by simpa using inside⟩
    · cases read
  · rintro ⟨oneLine, isOpening, three, inside⟩
    have goesOn : ∀ line ∈ lines (code ++ ['\n']), (!closes 3 line) = true := by
      intro line among
      rw [inside line among]
      rfl
    have stops : (!closes 3 closingLine) = false := by
      rw [closes_closingLine]
      rfl
    rw [oneLine]
    simp only [List.cons_append, List.nil_append, isOpening, if_true, three]
    rw [List.takeWhile_append_of_pos goesOn, List.dropWhile_append_of_pos goesOn,
      List.takeWhile_cons, List.dropWhile_cons, stops]
    simp [flatten_lines]

end Fenced

/-- What may stand behind the backticks that open a block: one line without backticks. -/
def IsInfo (info : List Char) : Prop :=
  lines (info ++ ['\n']) = [info ++ ['\n']] ∧ ∀ c ∈ info, isTick c = false

/-- No line of the code closes a block that three backticks have opened. -/
def StaysInside (code : List Char) : Prop :=
  ∀ line ∈ lines (code ++ ['\n']), closes 3 line = false

theorem lines_tick_iff (rest : List Char) (some : rest ≠ []) :
    lines ('\x60' :: rest) = ['\x60' :: rest] ↔ lines rest = [rest] := by
  have goesOn : endsLine '\x60' rest.head? = false := by simp [endsLine]
  rw [lines_cons, goesOn]
  cases parts : lines rest with
  | nil => exact absurd (lines_eq_nil_iff.mp parts) some
  | cons line more => simp

theorem opens_ticks_iff (info : List Char) :
    opens ('\x60' :: '\x60' :: '\x60' :: info) = true ∧
        ticks ('\x60' :: '\x60' :: '\x60' :: info) = 3 ↔ ∀ c ∈ info, isTick c = false := by
  have tick : isTick '\x60' = true := rfl
  simp only [opens, ticks, List.takeWhile_cons, List.dropWhile_cons, tick, if_true,
    Bool.and_eq_true, List.all_eq_true, Bool.not_eq_true', List.length_cons]
  constructor
  · rintro ⟨⟨-, others⟩, three⟩
    have none : info.takeWhile isTick = [] := List.length_eq_zero_iff.mp (by omega)
    have all := List.takeWhile_append_dropWhile (p := isTick) (l := info)
    rw [none, List.nil_append] at all
    rwa [all] at others
  · intro others
    cases info with
    | nil => simp
    | cons c rest => simpa [others c List.mem_cons_self] using others

/-- Code between fences of three backticks, of which the first names its language, is read as it
    was written just when the language can be named so and the code stays inside. -/
theorem block?_code_iff {language code after : List Char} :
    block? ('\x60' :: '\x60' :: '\x60' :: language ++
        '\n' :: (code ++ '\n' :: (closingLine ++ after))) = some ⟨code ++ ['\n'], after⟩ ↔
      IsInfo language ∧ StaysInside code := by
  have named : (∀ c ∈ language ++ ['\n'], isTick c = false) ↔
      ∀ c ∈ language, isTick c = false := by
    rw [List.forall_mem_append]
    exact and_iff_left (by simp [isTick])
  have first := (lines_tick_iff _ (by simp)).trans
    ((lines_tick_iff _ (by simp)).trans (lines_tick_iff (language ++ ['\n']) (by simp)))
  have second := (opens_ticks_iff (language ++ ['\n'])).trans named
  rw [block?_fenced_iff]
  constructor
  · rintro ⟨oneLine, isOpening, three, inside⟩
    exact ⟨⟨first.mp oneLine, second.mp ⟨isOpening, three⟩⟩, inside⟩
  · rintro ⟨⟨oneLine, plain⟩, inside⟩
    obtain ⟨isOpening, three⟩ := second.mpr plain
    exact ⟨first.mpr oneLine, isOpening, three, inside⟩

example : IsInfo "rust".toList ∧ StaysInside "//```\nf()".toList := by
  simp [IsInfo, StaysInside, lines, endsLine, isTick, closes, ticks]

end Markdown

/-- A report with these pieces of code, each in a block of its own and with what stands behind the
    block, and with any other lines around them. -/
inductive Report.Fences (language : String) : List (String × Report) → Report → Prop
  | prose (lines : Report) : Fences language [] lines
  | block (before : Report) (code : String) {blocks : List (String × Report)} {after : Report}
      (rest : Fences language blocks after) :
    Fences language ((code, after) :: blocks)
      (before ++ AiContext.codeBlock language code ++ after)

namespace AiContext

/-- The code that the report on the context shows: that of the symbol and of the first related ones
    where there is any, and that of all examples. -/
def shownCode (context : AiContext) : List String :=
  (context.primary.code :: (context.related.take maxRelated).map RelatedSymbol.code).filter
      (fun code => !Text.isBlankText code) ++
    (context.examples.getD []).map UsageExample.code

def Shows (language : String) (codes : List String) (report : Report) : Prop :=
  ∃ blocks, blocks.map Prod.fst = codes ∧ Report.Fences language blocks report

section Shows

variable {language : String} {codes : List String} {after : Report}

theorem Shows.prose (lines : Report) : Shows language [] lines :=
  ⟨[], rfl, .prose lines⟩

theorem Shows.behind (shown : Shows language codes after) (lines : Report) :
    Shows language codes (lines ++ after) := by
  obtain ⟨blocks, same, fences⟩ := shown
  refine ⟨blocks, same, ?_⟩
  cases fences with
  | prose => exact .prose _
  | block before code rest =>
    rw [← List.append_assoc, ← List.append_assoc]
    exact .block (lines ++ before) code rest

theorem Shows.block (shown : Shows language codes after) (code : String) :
    Shows language (code :: codes) (codeBlock language code ++ after) := by
  obtain ⟨blocks, rfl, fences⟩ := shown
  exact ⟨(code, after) :: blocks, rfl, .block [] code fences⟩

theorem Shows.blockIfAny (shown : Shows language codes after) (code : String) (note : Report) :
    Shows language ([code].filter (fun code => !Text.isBlankText code) ++ codes)
      ((if Text.isBlankText code then note else codeBlock language code) ++ after) := by
  cases blank : Text.isBlankText code with
  | true => simpa [blank] using shown.behind note
  | false => simpa [blank] using shown.block code

theorem Shows.related (shown : Shows language codes after) (symbols : List RelatedSymbol) :
    Shows language
      ((symbols.map RelatedSymbol.code).filter (fun code => !Text.isBlankText code) ++ codes)
      (symbols.flatMap (relatedLines language) ++ after) := by
  induction symbols with
  | nil => exact shown
  | cons symbol rest ih =>
    have next := ((ih.behind [""]).blockIfAny symbol.code []).behind
      [s!"### `{symbol.name}` ({symbol.relationship.label}, {percent symbol.relevance} relevant)",
        "", symbol.location.label]
    rw [List.map_cons, ← List.singleton_append, List.filter_append, List.flatMap_cons]
    simpa only [relatedLines, List.append_assoc] using next

theorem Shows.examples (shown : Shows language codes after) (usages : List UsageExample) :
    Shows language (usages.map UsageExample.code ++ codes)
      (usages.flatMap (exampleLines language) ++ after) := by
  induction usages with
  | nil => exact shown
  | cons usage rest ih =>
    have next := ((ih.block usage.code).behind
      (Report.whenSome (fun description => [description]) usage.description)).behind
      [s!"**{usage.location.label}**"]
    simpa only [exampleLines, List.map_cons, List.flatMap_cons, List.append_assoc,
      List.cons_append] using next

end Shows

theorem exampleSection_shows (context : AiContext) {after : Report}
    (shown : Shows context.primary.language [] after) :
    Shows context.primary.language ((context.examples.getD []).map UsageExample.code)
      (context.exampleSection ++ after) := by
  unfold exampleSection
  split
  · rename_i none
    rw [none]
    exact shown
  · rename_i none
    rw [none]
    exact shown
  · rename_i first rest some
    rw [some, List.append_assoc]
    have next := (shown.examples (first :: rest)).behind
      ["", s!"## Usage Examples ({(first :: rest).length})", ""]
    rwa [List.append_nil] at next

theorem report_shows (context : AiContext) :
    Shows context.primary.language context.shownCode context.report := by
  have examples := context.exampleSection_shows
    (Shows.prose (Report.whenSome architectureLines context.architecture))
  have related := ((examples.behind context.dependencySection).related
    (context.related.take maxRelated)).behind
    (["", relatedHeader context.related.length, ""] ++
      if context.related.isEmpty then
        [s!"_No related symbols found. `{context.primary.name}` has no indexed callers, callees " ++
          "or type relationships, or the token budget was used up by the primary code._"]
      else [])
  have head := (related.blockIfAny context.primary.code
    [s!"_Source not available for `{context.primary.name}`._"]).behind
    ([s!"# AI Context: `{context.primary.name}` ({context.primary.kind.label})", ""] ++
      Report.whenSome
        (fun metadata =>
          [s!"_~{metadata.totalTokens.toNat} tokens · {metadata.queryTime.toNat} ms_", ""])
        context.metadata ++
      [s!"**Location:** {context.primary.location.label}", ""])
  rw [shownCode, ← List.singleton_append, List.filter_append]
  simpa only [report, headSection, relatedSection, List.append_assoc] using head

theorem toList_text_codeBlock (language code : String) (after : Report) :
    (Report.text (codeBlock language code ++ after)).toList =
      '\x60' :: '\x60' :: '\x60' :: language.toList ++ '\n' :: ((Text.trimEnd code).toList ++
        '\n' :: (Markdown.closingLine ++ after.text.toList)) := by
  simp [codeBlock, fenced, Report.toList_text_cons, Markdown.closingLine, toString]

/-- Each piece of code in the report stands between fences of its own, and a reader finds it there,
    trimmed at its end, with the rest of the report behind it, just when its language can be named
    behind the opening fence and no line of it is a closing one. -/
theorem code_blocks (context : AiContext) :
    ∃ blocks, blocks.map Prod.fst = context.shownCode ∧
      Report.Fences context.primary.language blocks context.report ∧
      ∀ block ∈ blocks,
        (Markdown.block?
            (Report.text (codeBlock context.primary.language block.1 ++ block.2)).toList =
          some ⟨(Text.trimEnd block.1).toList ++ ['\n'], block.2.text.toList⟩ ↔
        Markdown.IsInfo context.primary.language.toList ∧
          Markdown.StaysInside (Text.trimEnd block.1).toList) := by
  obtain ⟨blocks, same, fences⟩ := context.report_shows
  refine ⟨blocks, same, fences, ?_⟩
  intro block _
  rw [toList_text_codeBlock]
  exact Markdown.block?_code_iff

/-- A reply with a source that quotes a block of its own. -/
def quotingReply : Json :=
  .object [("primaryContext",
    .object [("name", .string "guide"), ("type", .string "module"),
      ("language", .string "markdown"), ("code", .string "a\n```\nb")])]

/-- The line that the source quotes closes the block, and what is behind it is read as text. -/
theorem code_breaks_out :
    ∃ context before after,
      AiContext.decode quotingReply = .ok context ∧
      context.shownCode = ["a\n```\nb"] ∧
      context.report = before ++ codeBlock "markdown" "a\n```\nb" ++ after ∧
      Markdown.block? (Report.text (codeBlock "markdown" "a\n```\nb" ++ after)).toList =
        some ⟨"a\n".toList, "b\n```\n".toList ++ after.text.toList⟩ ∧
      Markdown.block? (Report.text (codeBlock "markdown" "a\n```\nb" ++ after)).toList ≠
        some ⟨(Text.trimEnd "a\n```\nb").toList ++ ['\n'], after.text.toList⟩ := by
  have trimmed : (Text.trimEnd "a\n```\nb").toList = "a\n```\nb".toList := by decide
  have read (after : Report) :
      Markdown.block? (Report.text (codeBlock "markdown" "a\n```\nb" ++ after)).toList =
        some ⟨"a\n".toList, "b\n```\n".toList ++ after.text.toList⟩ := by
    rw [toList_text_codeBlock, trimmed]
    have inside : Markdown.IsInfo "markdown".toList ∧ Markdown.StaysInside "a".toList := by
      simp [Markdown.IsInfo, Markdown.StaysInside, Markdown.lines, Markdown.endsLine,
        Markdown.isTick, Markdown.closes, Markdown.ticks]
    exact Markdown.block?_code_iff.mpr inside
  refine ⟨_, ["# AI Context: `guide` (module)", "", "**Location:** :1", ""],
    ["", "## Related Symbols (0)", "",
      "_No related symbols found. `guide` has no indexed callers, callees or type " ++
        "relationships, or the token budget was used up by the primary code._"],
    rfl, ?shown, ?report, read _, ?lost⟩
  case shown => decide
  case report => rfl
  case lost =>
    rw [read, trimmed]
    simp

end AiContext

end CodeGateway

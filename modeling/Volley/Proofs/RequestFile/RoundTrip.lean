import Volley.Proofs.RequestFile.Line
import Volley.Proofs.RequestFile.Separation

/-!
# Written request files are read back

A file that is made from its parts is read back as these parts. The lines of a block are fed to a
draft group by group: each group of lines is read for what it was written to say (`Line.read_…`)
and changes one part of the draft (`feedLines_definitions`, `feedLines_headers`,
`feedLines_bodyLines`), and none brings the case to a stage in which a later group would be read
otherwise. So a block is one case (`endCase_feedLines_lines`), a file is its blocks
(`endCase_feedLines_blocks`), and the lines of a written file are the lines that were written
(`lines_write`).
-/

namespace Volley

namespace Draft

/-- Takes in lines one after the other. -/
def feedLines (d : Draft) (written : List String) : Draft :=
  written.foldl (fun d line => d.feed line.toList) d

theorem feedLines_nil (d : Draft) : d.feedLines [] = d :=
  rfl

theorem feedLines_cons (d : Draft) (line : String) (later : List String) :
    d.feedLines (line :: later) = (d.feed line.toList).feedLines later :=
  rfl

theorem feedLines_append (d : Draft) (written later : List String) :
    d.feedLines (written ++ later) = (d.feedLines written).feedLines later :=
  List.foldl_append

/-- Outside of a body, a line is taken in for what it says. -/
theorem feed_eq_apply {d : Draft} (hstage : d.stage ≠ .body) {s : List Char} {line : Line}
    (h : ∀ mayDefine, Line.read mayDefine s = line) : d.feed s = d.apply line := by
  rw [feed, if_neg hstage, h]

/-- A separator that is written down ends the case. -/
theorem feed_separatorLine (d : Draft) : d.feed separatorLine.toList = d.endCase :=
  feed_of_isSeparator d (by decide)

/-! ## The groups of lines -/

/-- At the opening of a case, lines that define variables do so. -/
theorem feedLines_definitions {d : Draft} (hstage : d.stage = .opening)
    {definitions : List (String × String)}
    (h : ∀ definition ∈ definitions, Line.IsKey '=' definition.1 ∧ Line.IsValue definition.2) :
    d.feedLines (definitions.map Block.definitionLine) =
      { d with bindings := d.bindings.insertAll definitions } := by
  induction definitions generalizing d with
  | nil => rfl
  | cons definition definitions ih =>
    rw [List.forall_mem_cons] at h
    have hfeed : d.feed (Block.definitionLine definition).toList =
        { d with bindings := d.bindings.insert definition.1 definition.2 } := by
      have hopening : (d.stage == .opening) = true := by rw [hstage]; rfl
      rw [feed, if_neg (by simp [hstage]), hopening, Line.read_definitionLine h.1.1 h.1.2, apply]
    rw [List.map_cons, feedLines_cons, hfeed]
    exact ih hstage h.2

/-- A line that names the case does so. -/
theorem feedLines_name {d : Draft} (hstage : d.stage ≠ .body) (hnone : d.current.name = none)
    {name : Option String} (h : ∀ word ∈ name, Line.IsName word) :
    d.feedLines (name.toList.map Block.nameLine) =
      { d with current := { d.current with name := name } } := by
  cases name with
  | none =>
    have hcurrent : { d.current with name := none } = d.current := by rw [← hnone]
    rw [hcurrent]
    rfl
  | some word => exact feed_eq_apply hstage (Line.read_nameLine (h word rfl))

/-- The first line with a method and an address makes the request. -/
theorem feed_requestLine {d : Draft} (hstage : d.stage ≠ .body) (hfirst : d.hasRequest = false)
    {method url : String} (hmethod : method = "GET" ∨ method = "POST") (hurl : Line.IsValue url) :
    d.feed (Block.requestLine method url).toList =
      { d with
        current := { d.current with method := method, url := url }
        hasRequest := true } := by
  rw [feed_eq_apply hstage (Line.read_requestLine hmethod hurl), apply, hfirst]
  rfl

/-- Lines with headers add them to the case. -/
theorem feedLines_headers {d : Draft} (hstage : d.stage ≠ .body) {headers : List Header}
    (h : ∀ header ∈ headers, Line.IsHeaderName header.1 ∧ Line.IsValue header.2) :
    d.feedLines (headers.map Block.headerLine) =
      { d with
        current := { d.current with headers := d.current.headers ++ headers }
        stage := if headers.isEmpty then d.stage else .headers } := by
  induction headers generalizing d with
  | nil => simp [feedLines]
  | cons header headers ih =>
    rw [List.forall_mem_cons] at h
    have hfeed := feed_eq_apply hstage (Line.read_headerLine h.1.1 h.1.2)
    rw [List.map_cons, feedLines_cons, hfeed, apply, ih (by simp) h.2]
    simp

/-- Lines of a body are kept as they are. -/
theorem feedLines_bodyLines {d : Draft} (hstage : d.stage = .body) {bodyLines : List String}
    (h : ∀ line ∈ bodyLines, Line.IsBodyLine line) :
    d.feedLines bodyLines = { d with bodyLines := d.bodyLines ++ bodyLines.map String.toList } := by
  induction bodyLines generalizing d with
  | nil => simp [feedLines]
  | cons line bodyLines ih =>
    rw [List.forall_mem_cons] at h
    have hfeed : d.feed line.toList = { d with bodyLines := d.bodyLines ++ [line.toList] } := by
      rw [feed, if_pos hstage, h.1.separator]
      rfl
    rw [List.map_cons, List.append_cons, feedLines_cons, hfeed]
    exact ih hstage h.2

/-- After a header, a body is read behind an empty line. -/
theorem endCase_feedLines_bodyPart {d : Draft} {bodyLines : List String}
    (hstage : bodyLines ≠ [] → d.stage = .headers) (hnone : d.bodyLines = [])
    (h : ∀ line ∈ bodyLines, Line.IsBodyLine line) :
    (d.feedLines (Block.bodyPart bodyLines)).endCase =
      { d with bodyLines := bodyLines.map String.toList }.endCase := by
  cases bodyLines with
  | nil => rw [List.map_nil, ← hnone]; rfl
  | cons line bodyLines =>
    have hheaders := hstage (List.cons_ne_nil line bodyLines)
    have hblank : d.feed "".toList = { d with stage := .body } := by
      have happly : d.feed [] = d.apply .blank := feed_eq_apply (by simp [hheaders]) Line.read_nil
      rw [String.toList_empty, happly, apply, if_pos hheaders]
    rw [Block.bodyPart, List.isEmpty_cons, if_neg Bool.false_ne_true, feedLines_cons, hblank,
      feedLines_bodyLines rfl h, hnone]
    rfl

/-! ## Blocks -/

/-- The lines of a block are one case. -/
theorem endCase_feedLines_lines {b : Block} (h : b.IsWritable) (bindings : Dictionary String)
    (finished : List Case) :
    (feedLines { bindings := bindings, finished := finished } b.lines).endCase =
      { bindings := bindings.insertAll b.definitions, finished := finished ++ [b.toCase] } := by
  have hstage : b.bodyLines ≠ [] → (if b.headers.isEmpty then Stage.opening else .headers) =
      .headers := fun hbody => by simp [h.body hbody]
  -- The case stays at its opening up to the first header, and there is one before a body.
  rw [Block.lines, feedLines_append, feedLines_append, feedLines_append, feedLines_append,
    feedLines_definitions rfl h.definitions, feedLines_name (by simp) rfl h.name, feedLines_cons,
    feed_requestLine (by simp) rfl h.method h.url, feedLines_nil,
    feedLines_headers (by simp) h.headers, endCase_feedLines_bodyPart hstage rfl h.bodyLines]
  simp [endCase, currentCase, Block.toCase, Function.comp_def]

/-- The lines of a file are its blocks, one case each. -/
theorem endCase_feedLines_blocks {blocks : List Block} (hne : blocks ≠ [])
    (h : ∀ b ∈ blocks, b.IsWritable) (bindings : Dictionary String) (finished : List Case) :
    (feedLines { bindings := bindings, finished := finished }
        ([separatorLine].intercalate (blocks.map Block.lines))).endCase =
      { bindings := bindings.insertAll (blocks.flatMap Block.definitions)
        finished := finished ++ blocks.map Block.toCase } := by
  induction blocks generalizing bindings finished with
  | nil => exact absurd rfl hne
  | cons b later ih =>
    rw [List.forall_mem_cons] at h
    have hblock := endCase_feedLines_lines h.1 bindings finished
    cases later with
    | nil => simpa [List.intercalate_singleton] using hblock
    | cons c later =>
      have hlater := ih (List.cons_ne_nil c later) h.2 (bindings.insertAll b.definitions)
        (finished ++ [b.toCase])
      rw [List.map_cons, List.map_cons, List.intercalate_cons_cons, feedLines_append,
        feedLines_append, feedLines_cons, feedLines_nil, feed_separatorLine, hblock,
        ← List.map_cons, hlater, ← Dictionary.insertAll_append, List.append_assoc]
      rfl

end Draft

/-! ## The lines of the text -/

namespace Line

/-- A line may have anything without a line feed put before it. -/
theorem IsLine.append {s start : String} (h : IsLine s) (hne : s ≠ "")
    (hstart : '\n' ∉ start.toList) : IsLine (start ++ s) where
  line := by
    rw [String.toList_append, List.mem_append, not_or]
    exact ⟨hstart, h.line⟩
  last := by
    have hnonempty : s.toList ≠ [] := by simpa using hne
    have hlast := h.last
    rw [List.getLast?_eq_some_getLast hnonempty] at hlast
    rwa [String.toList_append, List.getLast?_append, List.getLast?_eq_some_getLast hnonempty,
      Option.some_or]

/-- A value stands on a line. -/
theorem IsValue.isLine {value : String} (h : IsValue value) : IsLine value where
  line := h.line
  last := fun hlast => absurd (h.last _ hlast) (by decide)

/-- A name stands on a line. -/
theorem IsName.isLine {name : String} (h : IsName name) : IsLine name where
  line := fun hmem => absurd (Text.isWhite_eq_false_of_isWord (h.word _ hmem)) (by decide)
  last := fun hlast =>
    absurd (Text.isWhite_eq_false_of_isWord (h.word _ (List.mem_of_getLast? hlast))) (by decide)

/-- There is no line feed in a key. -/
theorem IsKey.notMem_newline {mark : Char} {key : String} (h : IsKey mark key) :
    '\n' ∉ key.toList :=
  fun hmem => absurd (h.graph _ hmem) (by decide)

end Line

/-- The lines of a body part stand on lines. -/
theorem Block.isLine_bodyPart {bodyLines : List String} (h : ∀ line ∈ bodyLines, Line.IsLine line) :
    ∀ line ∈ bodyPart bodyLines, Line.IsLine line := by
  rw [bodyPart]
  split
  · simp
  · rw [List.forall_mem_cons]
    exact ⟨⟨by simp, by simp⟩, h⟩

/-- The lines of a block stand on lines. -/
theorem Block.IsWritable.isLine {b : Block} (h : b.IsWritable) :
    ∀ line ∈ b.lines, Line.IsLine line := by
  simp only [Block.lines, List.forall_mem_append, List.forall_mem_map, List.forall_mem_singleton]
  refine ⟨⟨⟨⟨fun definition hmem => ?_, fun name hmem => ?_⟩, ?_⟩, fun header hmem => ?_⟩,
    Block.isLine_bodyPart fun line hmem => (h.bodyLines line hmem).toIsLine⟩
  · obtain ⟨hkey, hvalue⟩ := h.definitions definition hmem
    exact hvalue.isLine.append hvalue.ne_empty (by simpa using hkey.notMem_newline)
  · have hname := h.name name (Option.mem_toList.1 hmem)
    exact hname.isLine.append hname.ne_empty (by decide)
  · refine h.url.isLine.append h.url.ne_empty ?_
    obtain hmethod | hmethod := h.method <;> rw [hmethod] <;> decide
  · obtain ⟨hname, hvalue⟩ := h.headers header hmem
    exact hvalue.isLine.append hvalue.ne_empty (by simpa using hname.notMem_newline)

/-- The lines of blocks with separators between them stand on lines. -/
theorem isLine_intercalate {blocks : List Block} (h : ∀ b ∈ blocks, b.IsWritable) :
    ∀ line ∈ [separatorLine].intercalate (blocks.map Block.lines), Line.IsLine line := by
  induction blocks with
  | nil => simp
  | cons b later ih =>
    rw [List.forall_mem_cons] at h
    cases later with
    | nil => simpa [List.intercalate_singleton] using h.1.isLine
    | cons c later =>
      rw [List.map_cons, List.map_cons, List.intercalate_cons_cons, List.forall_mem_append,
        List.forall_mem_append, List.forall_mem_singleton]
      exact ⟨⟨h.1.isLine, ⟨by decide, by decide⟩⟩, ih h.2⟩

namespace RequestFile

/-- The lines of a written file are the lines that were written. -/
theorem lines_write {blocks : List Block} (h : ∀ b ∈ blocks, b.IsWritable) :
    Text.lines (write blocks).toList =
      ([separatorLine].intercalate (blocks.map Block.lines)).map String.toList := by
  have hline := isLine_intercalate h
  have hends : (write blocks).toList =
      (([separatorLine].intercalate (blocks.map Block.lines)).map String.toList).flatMap
        (· ++ ['\n']) := by
    rw [write, String.toList_join, List.flatMap_map, List.flatMap_map]
    simp only [String.toList_append, String.reduceToList]
  rw [hends, Text.lines]
  exact Text.linesBy_flatMap (List.forall_mem_map.2 fun line hmem => (hline line hmem).line)
    (List.forall_mem_map.2 fun line hmem => (hline line hmem).last)

/-- A file that is written from its blocks is read back: it defines the variables of the blocks, and
for each of them the last definition counts; its cases are those of the blocks, in their order and
with all their parts; and none of them holds anything that was sent or received. -/
theorem ofString_write {blocks : List Block} (hne : blocks ≠ []) (h : ∀ b ∈ blocks, b.IsWritable) :
    ofString (write blocks) =
        { bindings := .ofPairs (blocks.flatMap Block.definitions)
          cases := blocks.map Block.toCase } ∧
      ∀ key, (ofString (write blocks)).bindings.get? key =
        ((blocks.flatMap Block.definitions).reverse.find? (·.1 == key)).map (·.2) := by
  have hread : ofString (write blocks) =
      { bindings := Dictionary.empty.insertAll (blocks.flatMap Block.definitions)
        cases := blocks.map Block.toCase } := by
    have hblocks := Draft.endCase_feedLines_blocks hne h .empty []
    rw [ofString, lines_write h, ofLines, List.foldl_map, ← Draft.feedLines, Draft.finish, hblocks]
    rfl
  refine ⟨by rw [hread, Dictionary.insertAll_empty], fun key => ?_⟩
  rw [hread, Dictionary.get?_insertAll]
  exact Option.or_none

/-- A file of two blocks, in which a variable is defined anew, a header is called as a method is,
and a line of a body looks like a comment. -/
def noteBlocks : List Block :=
  [{ definitions := [("server", "http://x"), ("user", "a = b")]
     name := some "login"
     method := "POST"
     url := "\x7b\x7bserver\x7d\x7d/login"
     headers := [("GET", "text # plain"), ("Accept", "@all: yes")]
     bodyLines := ["# not a comment", "", "@user = nobody"] },
    { definitions := [("server", "http://y")], method := "GET", url := "http://x/a b" }]

theorem ofString_write_noteBlocks :
    (noteBlocks ≠ [] ∧ ∀ b ∈ noteBlocks, b.IsWritable) ∧
      ofString (write noteBlocks) =
        { bindings := .ofPairs (noteBlocks.flatMap Block.definitions)
          cases := noteBlocks.map Block.toCase } := by
  have hwritable : ∀ b ∈ noteBlocks, b.IsWritable := by decide +kernel
  exact ⟨⟨by decide, hwritable⟩, (ofString_write (by decide) hwritable).1⟩

end RequestFile

end Volley

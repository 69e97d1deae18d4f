import CnfSearch.Proofs.Reading

namespace CnfSearch.Text

-- A row keeps its line feed and the blanks before that.
def rows : List Char → List (List Char)
  | [] => []
  | c :: rest => if c = '\n' then [c] :: rows rest else extendFirst c (rows rest)

def EndsRow (text : List Char) : Prop := text = [] ∨ text.getLast? = some '\n'

section Rows
variable {line rest : List Char}

theorem endsRow_append (first : EndsRow front) (second : EndsRow back) : EndsRow (front ++ back) := by
  rcases second with rfl | feed
  · rwa [List.append_nil]
  · exact .inr (by rw [List.getLast?_append,feed,Option.some_or])

theorem rows_feed (noFeed : '\n' ∉ line) (rest : List Char) :
    rows (line ++ '\n' :: rest) = (line ++ ['\n']) :: rows rest := by
  induction line with
  | nil => rfl
  | cons c line ih =>
    obtain ⟨other,noFeed⟩ := not_or.mp (mt List.mem_cons.mpr noFeed)
    rw [List.cons_append,rows,if_neg (Ne.symm other),ih noFeed]
    rfl

theorem rows_open (noFeed : '\n' ∉ line) (nonempty : line ≠ []) : rows line = [line] := by
  induction line with
  | nil => exact absurd rfl nonempty
  | cons c line ih =>
    obtain ⟨other,noFeed⟩ := not_or.mp (mt List.mem_cons.mpr noFeed)
    rw [rows,if_neg (Ne.symm other)]
    cases line with
    | nil => rfl
    | cons d line => rw [ih noFeed (List.cons_ne_nil _ _)]; rfl

theorem lines_open (noFeed : '\n' ∉ line) (nonempty : line ≠ []) : lines line = [line] := by
  induction line with
  | nil => exact absurd rfl nonempty
  | cons c line ih =>
    obtain ⟨other,noFeed⟩ := not_or.mp (mt List.mem_cons.mpr noFeed)
    cases line with
    | nil => simp [lines,extendFirst,Ne.symm other]
    | cons d line =>
      obtain ⟨otherNext,_⟩ := not_or.mp (mt List.mem_cons.mpr noFeed)
      rw [lines,ih noFeed (List.cons_ne_nil _ _)]
      · rfl
      · exact Ne.symm other
      · intro after _ same
        exact otherNext (List.cons.inj same).1.symm

theorem feed_induction {motive : List Char → Prop} (last : ∀ line, '\n' ∉ line → motive line)
    (row : ∀ line rest, '\n' ∉ line → motive rest → motive (line ++ '\n' :: rest)) (text : List Char) :
    motive text := by
  induction length : text.length using Nat.strongRecOn generalizing text with
  | ind n ih =>
    by_cases fed : '\n' ∈ text
    · obtain ⟨line,rest,rfl,noFeed⟩ := List.eq_append_cons_of_mem fed
      have shorter : rest.length < n := by
        rw [← length,List.length_append,List.length_cons]
        omega
      exact row line rest noFeed (ih _ shorter rest rfl)
    · exact last text fed

theorem rows_append (ends : EndsRow front) (back : List Char) : rows (front ++ back) = rows front ++ rows back := by
  induction front using feed_induction with
  | last line noFeed =>
    rcases ends with rfl | feed
    · rfl
    · exact absurd (List.mem_of_getLast? feed) noFeed
  | row line rest noFeed ih =>
    have restEnds : EndsRow rest := by
      cases rest with
      | nil => exact .inl rfl
      | cons c rest => exact .inr (by simpa [EndsRow,List.getLast?_append,List.getLast?_cons] using ends)
    rw [List.append_assoc,List.cons_append,rows_feed noFeed,rows_feed noFeed,ih restEnds,List.cons_append]

theorem endsRow_back (ends : EndsRow (front ++ back)) : EndsRow back := by
  rcases List.eq_nil_or_concat' back with rfl | ⟨_,c,rfl⟩
  · exact .inl rfl
  · rcases ends with none | feed
    · simp at none
    · exact .inr (by simpa using feed)

theorem rows_flatten (text : List Char) : (rows text).flatten = text := by
  induction text with
  | nil => rfl
  | cons c rest ih =>
    rw [rows]
    split
    · rw [List.flatten_cons,ih]
      rfl
    · cases cut : rows rest with
      | nil => rw [cut] at ih; rw [← ih]; rfl
      | cons row more => rw [cut] at ih; rw [← ih]; rfl

end Rows

section Trim

theorem trim_append_blanks (blanks : ∀ c ∈ after, isBlank c = true) (text : List Char) :
    trim (text ++ after) = trim text := by
  have backward : ∀ c ∈ after.reverse, isBlank c = true := fun c member => blanks c (List.mem_reverse.mp member)
  unfold trim
  rw [List.dropWhile_append]
  split
  · rename_i none
    rw [List.isEmpty_iff.mp none,List.dropWhile_eq_nil_iff.mpr blanks]
  · rw [List.reverse_append,List.dropWhile_append_of_pos backward]

theorem trim_blanks_append (blanks : ∀ c ∈ before, isBlank c = true) (text : List Char) :
    trim (before ++ text) = trim text := by
  rw [trim,List.dropWhile_append_of_pos blanks,trim]

theorem trim_trim (text : List Char) : trim (trim text) = trim text := by
  obtain ⟨before,after,parts,front,back⟩ := trim_parts text
  have whole : trim text = trim (before ++ trim text ++ after) := congrArg trim parts
  rw [trim_append_blanks back,trim_blanks_append front] at whole
  exact whole.symm

theorem trim_withoutReturn (line : List Char) : trim (withoutReturn line) = trim line := by
  unfold withoutReturn
  split
  · rename_i last
    obtain ⟨front,rfl⟩ := List.getLast?_eq_some_iff.mp last
    rw [List.dropLast_concat,trim_append_blanks (List.forall_mem_singleton.mpr (by decide))]
  · rfl

-- A line is its row but for blanks at the end.
theorem trim_lines (text : List Char) : (lines text).map trim = (rows text).map trim := by
  induction text using feed_induction with
  | last line noFeed =>
    by_cases nonempty : line = []
    · rw [nonempty]
      rfl
    · rw [lines_open noFeed nonempty,rows_open noFeed nonempty]
  | row line rest noFeed ih =>
    rw [lines_feed noFeed,rows_feed noFeed,List.map_cons,List.map_cons,ih,trim_withoutReturn,
      trim_append_blanks (List.forall_mem_singleton.mpr (by decide))]

end Trim
end CnfSearch.Text

namespace CnfSearch.Dimacs

theorem read_trim (text : List Char) : Line.read (Text.trim text) = Line.read text := by
  unfold Line.read
  rw [Text.trim_trim]

theorem Reader.readLines_trim (r : Reader) (number : Nat) (lines : List (List Char)) :
    r.readLines number (lines.map Text.trim) = r.readLines number lines := by
  induction lines generalizing r number with
  | nil => rfl
  | cons text lines ih =>
    simp only [List.map_cons,readLines,readLine,read_trim,ih]

theorem parse_rows (text : String) : parse text = parseLines (Text.rows text.toList) := by
  unfold parse parseLines
  rw [← Reader.readLines_trim,Text.trim_lines,Reader.readLines_trim]

def isEndMarker (row : List Char) : Bool := (Text.tokens row).head? == some ['%']

@[simp] theorem endsData_numbered (number : Nat) (row : List Char) :
    NumberedLine.endsData ⟨number,row⟩ = isEndMarker row := rfl

def textContent (text : String) : List (List Char) := (Text.rows text.toList).takeWhile (!isEndMarker ·)

theorem content_numbered (number : Nat) (rows : List (List Char)) :
    content (numberFrom number rows) = numberFrom number (rows.takeWhile (!isEndMarker ·)) := by
  induction rows generalizing number with
  | nil => rfl
  | cons row rows ih =>
    rw [numberFrom,List.takeWhile_cons]
    split
    · rename_i more
      have more : NumberedLine.endsData ⟨number,row⟩ = false := by simpa using more
      rw [content_more more,ih,numberFrom]
    · rename_i ends
      have ends : NumberedLine.endsData ⟨number,row⟩ = true := by simpa using ends
      rw [content_end ends,numberFrom]

theorem textContent_numbered (text : String) :
    content (numberFrom 1 (Text.rows text.toList)) = numberFrom 1 (textContent text) := content_numbered 1 _

theorem parseLines_content (same : content (numberFrom 1 xs) = content (numberFrom 1 ys)) :
    parseLines xs = parseLines ys := by
  rw [parseLines_groups,parseLines_groups,clauseGroups,clauseGroups,clauseBlock,clauseBlock,dataLines,dataLines,
    declaration?,declaration?,same]

theorem parse_content (text : String) : parse text = parseLines (textContent text) := by
  rw [parse_rows]
  apply parseLines_content
  rw [content_numbered,content_numbered,textContent,List.takeWhile_takeWhile]
  simp

end CnfSearch.Dimacs

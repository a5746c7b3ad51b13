import TagScript.Assertion
import Mathlib.Data.List.TakeDrop
import Mathlib.Data.List.TakeWhile

/-!
# The last assertion of a script

`Comment` describes an assertion comment, and `Visits` the places that the search for comments comes
to. The comment on the last line of a script is the assertion of the script, unless the search comes
to a comment that opens a single quote and does not close it. The quoted text may go over the end of
a line, so such a comment ends at the first quote of the last line and hides the comment there. That
this is the only exception is `ofSource?_lastLine`.
-/

namespace TagScript.Assertion

open Text

variable {text rest tail : List Char} {assertion : Assertion}

/-- The characters that a quoted text stands between. -/
abbrev IsQuote (c : Char) : Prop :=
  c = '\x27' ∨ c = '"'

/-- The word for an expected output, blanks, and an opening quote with something behind it. -/
inductive Announces : List Char → Char → List Char → Prop
  | intro {gap behind : List Char} {quote : Char} (blank : ∀ c ∈ gap, isBlank c = true)
      (apart : gap ≠ []) : Announces ("assertEcho".toList ++ (gap ++ quote :: behind)) quote behind

/-- A text begins with an assertion comment, and the rest follows it. -/
inductive Comment : List Char → Assertion → List Char → Prop
  | echo {blanks text content rest : List Char} {quote : Char}
      (blank : ∀ c ∈ blanks, isBlank c = true) (isQuote : IsQuote quote) (within : quote ∉ content)
      (announces : Announces text quote (content ++ quote :: rest)) :
      Comment ('/' :: '/' :: (blanks ++ text)) (.echo (.ofList content)) rest
  | fail {blanks rest : List Char} (blank : ∀ c ∈ blanks, isBlank c = true)
      (ended : ∀ c ∈ rest.head?, isWordCharacter c = false) :
      Comment ('/' :: '/' :: (blanks ++ ("assertFail".toList ++ rest))) .fail rest

/-- A comment opens a single quote that nothing behind it closes. -/
inductive IsOpen : List Char → Prop
  | intro {blanks text content : List Char} (blank : ∀ c ∈ blanks, isBlank c = true)
      (announces : Announces text '\x27' content) (unclosed : '\x27' ∉ content) :
      IsOpen ('/' :: '/' :: (blanks ++ text))

/-- The places that a search from left to right comes to: the next character where no comment
begins, and the end of the comment where one does. -/
inductive Visits : List Char → List Char → Prop
  | here (text : List Char) : Visits text text
  | skip {c : Char} {text place : List Char}
      (plain : ∀ assertion rest, ¬Comment (c :: text) assertion rest) (later : Visits text place) :
      Visits (c :: text) place
  | pass {text rest place : List Char} {assertion : Assertion}
      (comment : Comment text assertion rest) (later : Visits rest place) : Visits text place

/-- The search comes to a comment that is left open. -/
def LeavesOpen (text : List Char) : Prop :=
  ∃ place, Visits text place ∧ IsOpen place

/-! ## The readers of a comment -/

theorem afterWord?_eq_some_iff {word : List Char} :
    afterWord? word text = some rest ↔ text = word ++ rest := by
  fun_induction afterWord? word text with
  | case1 text => simp
  | case2 word c text ih => simp [ih]
  | case3 c word d text different => simp [Ne.symm different]
  | case4 c word => simp

theorem quoted?_closed {quote : Char} {content : List Char} (isQuote : IsQuote quote)
    (within : quote ∉ content) (rest : List Char) :
    quoted? (quote :: (content ++ quote :: rest)) = some (content, rest) := by
  have others : ∀ c ∈ content, decide (c ≠ quote) = true := by
    intro c inside
    exact decide_eq_true (ne_of_mem_of_not_mem inside within)
  rw [quoted?, if_pos isQuote, List.span_eq_takeWhile_dropWhile,
    List.takeWhile_append_of_pos others, List.dropWhile_append_of_pos others]
  simp

theorem quoted?_unclosed {quote : Char} {content : List Char} (unclosed : quote ∉ content) :
    quoted? (quote :: content) = none := by
  have others : ∀ c ∈ content, decide (c ≠ quote) = true := by
    intro c inside
    exact decide_eq_true (ne_of_mem_of_not_mem inside unclosed)
  have nothing : content.dropWhile (· ≠ quote) = [] := List.dropWhile_eq_nil_iff.2 others
  rw [quoted?, List.span_eq_takeWhile_dropWhile, nothing, ite_self]

/-- A quoted text ends at the first quote of its kind. -/
theorem quoted?_eq_some_iff {content : List Char} : quoted? text = some (content, rest) ↔
    ∃ quote, IsQuote quote ∧ quote ∉ content ∧
      text = quote :: (content ++ quote :: rest) := by
  constructor
  · intro found
    cases text with
    | nil => cases found
    | cons quote text =>
      by_cases isQuote : IsQuote quote
      · by_cases closed : quote ∈ text
        · obtain ⟨inner, last, rfl, within⟩ := List.eq_append_cons_of_mem closed
          rw [quoted?_closed isQuote within] at found
          cases found
          exact ⟨quote, isQuote, within, rfl⟩
        · rw [quoted?_unclosed closed] at found
          cases found
      · rw [quoted?, if_neg isQuote] at found
        cases found
  · rintro ⟨quote, isQuote, within, rfl⟩
    exact quoted?_closed isQuote within rest

theorem exists_blanks (text : List Char) :
    ∃ blanks, (∀ c ∈ blanks, isBlank c = true) ∧ text = blanks ++ dropBlanks text :=
  ⟨text.takeWhile isBlank, fun _ => List.mem_takeWhile_imp, List.takeWhile_append_dropWhile.symm⟩

theorem IsQuote.isBlank {quote : Char} (isQuote : IsQuote quote) : isBlank quote = false := by
  rcases isQuote with rfl | rfl <;> decide

/-- What is announced stands behind the word and the blanks after it. -/
theorem announces_iff {quote : Char} {behind : List Char} (visible : isBlank quote = false) :
    Announces text quote behind ↔ ∃ gap, afterWord? "assertEcho".toList text = some gap ∧
      gap.head?.any isBlank = true ∧ dropBlanks gap = quote :: behind := by
  constructor
  · intro announces
    cases announces with
    | @intro gap _ _ blank apart =>
      refine ⟨gap ++ quote :: behind, afterWord?_eq_some_iff.2 rfl, ?_, ?_⟩
      · cases gap with
        | nil => exact absurd rfl apart
        | cons c gap => exact blank c List.mem_cons_self
      · apply dropBlanks_append blank
        rintro c ⟨rfl⟩
        exact visible
  · rintro ⟨rest, word, starts, opened⟩
    obtain ⟨gap, blank, split⟩ := exists_blanks rest
    rw [opened] at split
    subst split
    rw [afterWord?_eq_some_iff.1 word]
    apply Announces.intro blank
    rintro rfl
    rw [List.nil_append, List.head?_cons, Option.any_some, visible] at starts
    cases starts

theorem echo?_eq_some_iff : echo? text = some (assertion, rest) ↔
    ∃ quote content, IsQuote quote ∧ quote ∉ content ∧ assertion = .echo (.ofList content) ∧
      Announces text quote (content ++ quote :: rest) := by
  constructor
  · intro found
    obtain ⟨gap, word, found⟩ := Option.bind_eq_some_iff.1 found
    split at found
    case isFalse => cases found
    case isTrue starts =>
      obtain ⟨⟨content, last⟩, quoted, found⟩ := Option.bind_eq_some_iff.1 found
      cases found
      obtain ⟨quote, isQuote, within, opened⟩ := quoted?_eq_some_iff.1 quoted
      exact ⟨quote, content, isQuote, within, rfl,
        (announces_iff isQuote.isBlank).2 ⟨gap, word, starts, opened⟩⟩
  · rintro ⟨quote, content, isQuote, within, rfl, announces⟩
    obtain ⟨gap, word, starts, opened⟩ := (announces_iff isQuote.isBlank).1 announces
    rw [echo?, word]
    simp only [Option.bind_eq_bind, Option.bind_some, starts, if_true, opened,
      quoted?_closed isQuote within]
    rfl

theorem fail?_eq_some_iff : fail? text = some (assertion, rest) ↔
    (∀ c ∈ rest.head?, isWordCharacter c = false) ∧ assertion = .fail ∧
      text = "assertFail".toList ++ rest := by
  constructor
  · intro found
    obtain ⟨behind, word, found⟩ := Option.bind_eq_some_iff.1 found
    split at found
    case isTrue => cases found
    case isFalse ended =>
      cases found
      refine ⟨?_, rfl, afterWord?_eq_some_iff.1 word⟩
      intro c first
      simpa [Option.mem_def.1 first] using ended
  · rintro ⟨ended, rfl, rfl⟩
    have ends : rest.head?.any isWordCharacter = false := (Option.any_eq_false _ _).2 ended
    rw [fail?, afterWord?_eq_some_iff.2 rfl]
    simp only [Option.bind_eq_bind, Option.bind_some, ends]
    rfl

theorem comment?_slashes (text : List Char) : comment? ('/' :: '/' :: text) =
    (echo? (dropBlanks text)).or (fail? (dropBlanks text)) :=
  Option.orElse_eq_or

/-- The reader of a comment accepts what the description allows. -/
theorem comment?_eq_some_iff :
    comment? text = some (assertion, rest) ↔ Comment text assertion rest := by
  constructor
  · intro found
    rw [comment?.eq_def] at found
    split at found
    case h_1 text =>
      obtain ⟨blanks, blank, split⟩ := exists_blanks text
      rw [split]
      rcases Option.or_eq_some_iff.1 ((comment?_slashes text).symm.trans found) with
        echo | ⟨-, fail⟩
      · obtain ⟨quote, content, isQuote, within, rfl, announces⟩ := echo?_eq_some_iff.1 echo
        exact .echo blank isQuote within announces
      · obtain ⟨ended, rfl, opened⟩ := fail?_eq_some_iff.1 fail
        rw [opened]
        exact .fail blank ended
    case h_2 => cases found
  · intro comment
    cases comment with
    | @echo blanks text content rest quote blank isQuote within announces =>
      have starts : ∀ c ∈ text.head?, isBlank c = false := by
        cases announces
        rintro c ⟨rfl⟩
        decide
      rw [comment?_slashes, dropBlanks_append blank starts]
      apply Option.or_eq_some_iff.2
      exact .inl (echo?_eq_some_iff.2 ⟨quote, content, isQuote, within, rfl, announces⟩)
    | @fail blanks rest blank ended =>
      have starts : ∀ c ∈ ("assertFail".toList ++ rest).head?, isBlank c = false := by
        rintro c ⟨rfl⟩
        decide
      rw [comment?_slashes, dropBlanks_append blank starts]
      apply Option.or_eq_some_iff.2
      exact .inr ⟨rfl, fail?_eq_some_iff.2 ⟨ended, rfl, rfl⟩⟩

theorem comment?_eq_none_iff :
    comment? text = none ↔ ∀ assertion rest, ¬Comment text assertion rest := by
  rw [Option.eq_none_iff_forall_ne_some, Prod.forall]
  simp only [ne_eq, comment?_eq_some_iff]

theorem comment?_plain (plain : ∀ more, text ≠ '/' :: '/' :: more) : comment? text = none := by
  rw [comment?_eq_none_iff]
  intro assertion rest comment
  cases comment with
  | echo => exact plain _ rfl
  | fail => exact plain _ rfl

/-! ## One more line -/

theorem dropBlanks_line (text tail : List Char) : dropBlanks (text ++ '\n' :: '/' :: tail) =
    if dropBlanks text = [] then '/' :: tail else dropBlanks text ++ '\n' :: '/' :: tail := by
  rw [dropBlanks, List.dropWhile_append]
  simp only [List.isEmpty_iff]
  rfl

theorem afterWord?_line {word : List Char} (single : '\n' ∉ word) :
    afterWord? word (text ++ '\n' :: tail) = (afterWord? word text).map (· ++ '\n' :: tail) := by
  fun_induction afterWord? word text with
  | case1 text => rfl
  | case2 word c text ih =>
    rw [List.cons_append, afterWord?, if_pos rfl]
    exact ih fun inside => single (List.mem_cons_of_mem c inside)
  | case3 c word d text different =>
    rw [List.cons_append, afterWord?, if_neg different]
    rfl
  | case4 c word =>
    rw [List.nil_append, afterWord?, if_neg]
    · rfl
    · rintro rfl
      exact single List.mem_cons_self

theorem quoted?_line {quote : Char} {content : List Char}
    (clear : IsQuote quote → quote ∉ content → quote ∉ tail) :
    quoted? (quote :: content ++ '\n' :: tail) =
      (quoted? (quote :: content)).map (Prod.map id (· ++ '\n' :: tail)) := by
  by_cases isQuote : IsQuote quote
  · by_cases closed : quote ∈ content
    · obtain ⟨inner, last, rfl, within⟩ := List.eq_append_cons_of_mem closed
      rw [quoted?_closed isQuote within, List.cons_append, List.append_assoc, List.cons_append,
        quoted?_closed isQuote within]
      rfl
    · have unclosed : quote ∉ content ++ '\n' :: tail := by
        have : quote ≠ '\n' := by
          rcases isQuote with rfl | rfl <;> decide
        simp [closed, clear isQuote closed, this]
      rw [quoted?_unclosed closed, List.cons_append, quoted?_unclosed unclosed]
      rfl
  · rw [List.cons_append, quoted?, quoted?, if_neg isQuote, if_neg isQuote]
    rfl

theorem echo?_line (double : '"' ∉ tail)
    (closed : ∀ content, Announces text '\x27' content → '\x27' ∉ content → '\x27' ∉ tail) :
    echo? (text ++ '\n' :: '/' :: tail) =
      (echo? text).map (Prod.map id (· ++ '\n' :: '/' :: tail)) := by
  rw [echo?, echo?, afterWord?_line (by decide)]
  cases word : afterWord? "assertEcho".toList text with
  | none => rfl
  | some gap =>
    cases gap with
    | nil => rfl
    | cons c gap =>
      by_cases blank : isBlank c = true
      · have starts : Option.any isBlank (c :: gap).head? = true := blank
        have starts' : Option.any isBlank (c :: gap ++ '\n' :: '/' :: tail).head? = true := blank
        simp only [Option.bind_eq_bind, Option.bind_some, Option.map_some, starts, starts', if_true]
        rw [dropBlanks_line]
        cases opened : dropBlanks (c :: gap) with
        | nil => rfl
        | cons quote content =>
          have clear : IsQuote quote → quote ∉ content → quote ∉ '/' :: tail := by
            rintro (rfl | rfl) unclosed
            · have announces := (announces_iff (by decide)).2 ⟨_, word, starts, opened⟩
              simpa using closed content announces unclosed
            · simpa using double
          rw [if_neg (List.cons_ne_nil _ _), quoted?_line clear]
          cases quoted? (quote :: content) <;> rfl
      · simp [blank]

theorem fail?_line (text tail : List Char) : fail? (text ++ '\n' :: tail) =
    (fail? text).map (Prod.map id (· ++ '\n' :: tail)) := by
  rw [fail?, fail?, afterWord?_line (by decide)]
  cases afterWord? "assertFail".toList text with
  | none => rfl
  | some rest =>
    cases rest with
    | nil => rfl
    | cons c rest => cases word : isWordCharacter c <;> simp [word]

/-- One more line changes nothing about the comment that a text begins with, unless that comment is
open and the line closes it. -/
theorem comment?_line (present : text ≠ []) (double : '"' ∉ tail)
    (closed : IsOpen text → '\x27' ∉ tail) : comment? (text ++ '\n' :: '/' :: tail) =
      (comment? text).map (Prod.map id (· ++ '\n' :: '/' :: tail)) := by
  by_cases slashes : ∃ more, text = '/' :: '/' :: more
  · obtain ⟨more, rfl⟩ := slashes
    rw [List.cons_append, List.cons_append, comment?_slashes, comment?_slashes, dropBlanks_line,
      Option.map_or]
    split
    case isTrue blank =>
      rw [blank]
      rfl
    case isFalse =>
      rw [fail?_line, echo?_line double]
      intro content announces unclosed
      obtain ⟨blanks, blank, split⟩ := exists_blanks more
      apply closed
      rw [split]
      exact .intro blank announces unclosed
  · have plain : ∀ more, text ++ '\n' :: '/' :: tail ≠ '/' :: '/' :: more := by
      intro more same
      cases text with
      | nil => exact present rfl
      | cons c text =>
        cases text with
        | nil => simp at same
        | cons d text =>
          cases same
          exact slashes ⟨text, rfl⟩
    rw [comment?_plain plain, comment?_plain fun more same => slashes ⟨more, same⟩]
    rfl

/-! ## The search -/

theorem Announces.isSuffix {quote : Char} {behind : List Char}
    (announces : Announces text quote behind) : quote :: behind <:+ text := by
  cases announces with
  | @intro gap => exact (List.suffix_append gap _).trans (List.suffix_append _ _)

theorem Comment.isSuffix (comment : Comment text assertion rest) : rest <:+ text := by
  cases comment with
  | @echo blanks text content rest quote blank isQuote within announces =>
    have behind : rest <:+ quote :: (content ++ quote :: rest) :=
      ⟨quote :: (content ++ [quote]), by simp⟩
    exact behind.trans (announces.isSuffix.trans ⟨'/' :: '/' :: blanks, rfl⟩)
  | @fail blanks rest => exact ⟨'/' :: '/' :: (blanks ++ "assertFail".toList), by simp⟩

theorem Comment.length_lt (comment : Comment text assertion rest) : rest.length < text.length := by
  cases comment with
  | echo blank isQuote within announces =>
    have shorter := announces.isSuffix.length_le
    simp only [List.length_append, List.length_cons] at shorter ⊢
    omega
  | fail =>
    simp only [List.length_append, List.length_cons]
    omega

theorem lastFrom_skip {c : Char} (plain : ∀ assertion rest, ¬Comment (c :: text) assertion rest)
    (found : Option Assertion) : lastFrom found (c :: text) = lastFrom found text := by
  rw [lastFrom, comment?_eq_none_iff.2 plain]

theorem lastFrom_pass (comment : Comment text assertion rest) (found : Option Assertion) :
    lastFrom found text = lastFrom (some assertion) rest := by
  have shorter := comment.length_lt
  cases text with
  | nil => cases comment
  | cons c text =>
    rw [lastFrom, comment?_eq_some_iff.2 comment]
    exact if_pos shorter

/-- The step to the next character is the same with one more line. -/
theorem lastFrom_skip_line {c : Char}
    (plain : ∀ assertion rest, ¬Comment (c :: text) assertion rest) (double : '"' ∉ tail)
    (closed : IsOpen (c :: text) → '\x27' ∉ tail) (found : Option Assertion) :
    lastFrom found (c :: text ++ '\n' :: '/' :: tail) =
      lastFrom found (text ++ '\n' :: '/' :: tail) := by
  rw [List.cons_append]
  apply lastFrom_skip
  rw [← comment?_eq_none_iff, ← List.cons_append,
    comment?_line (List.cons_ne_nil c text) double closed, comment?_eq_none_iff.2 plain]
  rfl

/-- The step behind a comment is the same with one more line. -/
theorem lastFrom_pass_line (comment : Comment text assertion rest) (double : '"' ∉ tail)
    (closed : IsOpen text → '\x27' ∉ tail) (found : Option Assertion) :
    lastFrom found (text ++ '\n' :: '/' :: tail) =
      lastFrom (some assertion) (rest ++ '\n' :: '/' :: tail) := by
  have present : text ≠ [] := by
    rintro rfl
    cases comment
  apply lastFrom_pass
  rw [← comment?_eq_some_iff, comment?_line present double closed, comment?_eq_some_iff.2 comment]
  rfl

/-- A line behind a text is searched after the text, where the text leaves nothing open that the
line closes. -/
theorem lastFrom_line (double : '"' ∉ tail) (closed : LeavesOpen text → '\x27' ∉ tail)
    (found : Option Assertion) : lastFrom found (text ++ '\n' :: '/' :: tail) =
      lastFrom (lastFrom found text) ('/' :: tail) := by
  have here (isOpen : IsOpen text) : '\x27' ∉ tail := closed ⟨text, .here text, isOpen⟩
  fun_induction lastFrom found text with
  | case1 found =>
    apply lastFrom_skip
    intro assertion rest comment
    cases comment
  | case2 found c text none ih =>
    have plain := comment?_eq_none_iff.1 none
    have later : LeavesOpen text → '\x27' ∉ tail := by
      rintro ⟨place, visits, isOpen⟩
      exact closed ⟨place, .skip plain visits, isOpen⟩
    rw [lastFrom_skip_line plain double here]
    exact ih later fun isOpen => later ⟨text, .here text, isOpen⟩
  | case3 found c text assertion rest some shorter ih =>
    have comment := comment?_eq_some_iff.1 some
    have later : LeavesOpen rest → '\x27' ∉ tail := by
      rintro ⟨place, visits, isOpen⟩
      exact closed ⟨place, .pass comment visits, isOpen⟩
    rw [lastFrom_pass_line comment double here]
    exact ih later fun isOpen => later ⟨rest, .here rest, isOpen⟩
  | case4 found c text assertion rest some longer =>
    exact absurd (comment?_eq_some_iff.1 some).length_lt longer

theorem Announces.append {quote : Char} {behind : List Char}
    (announces : Announces text quote behind) (more : List Char) :
    Announces (text ++ more) quote (behind ++ more) := by
  cases announces with
  | intro blank apart =>
    rw [List.append_assoc, List.append_assoc]
    exact .intro blank apart

/-- A comment that is left open ends at the next single quote, on whichever line that is. -/
theorem IsOpen.comment {front : List Char} (isOpen : IsOpen text) (first : '\x27' ∉ front)
    (rest : List Char) : ∃ content, '\n' ∈ content ∧
      Comment (text ++ '\n' :: (front ++ '\x27' :: rest)) (.echo (.ofList content)) rest := by
  cases isOpen with
  | @intro blanks text content blank announces unclosed =>
    have within : '\x27' ∉ content ++ '\n' :: front := by
      simp [unclosed, first]
    have closes : Announces (text ++ '\n' :: (front ++ '\x27' :: rest)) '\x27'
        (content ++ '\n' :: front ++ '\x27' :: rest) := by
      rw [List.append_assoc]
      exact announces.append _
    refine ⟨content ++ '\n' :: front, by simp, ?_⟩
    rw [List.cons_append, List.cons_append, List.append_assoc]
    exact .echo blank (.inl rfl) within closes

/-- Where the search comes to a comment that is left open, the next line up to its single quote is
taken for a part of the quoted text. -/
theorem lastFrom_hidden {front place : List Char} (visits : Visits text place)
    (isOpen : IsOpen place) (double : '"' ∉ front ++ '\x27' :: rest) (first : '\x27' ∉ front)
    (found : Option Assertion) : ∃ content, '\n' ∈ content ∧
      lastFrom found (text ++ '\n' :: '/' :: (front ++ '\x27' :: rest)) =
        lastFrom (some (.echo (.ofList content))) rest := by
  -- The place may come after an open comment, which then hides the line in its stead.
  have hides {text : List Char} (isOpen : IsOpen text) (found : Option Assertion) :
      ∃ content, '\n' ∈ content ∧
        lastFrom found (text ++ '\n' :: '/' :: (front ++ '\x27' :: rest)) =
          lastFrom (some (.echo (.ofList content))) rest := by
    have first : '\x27' ∉ '/' :: front := by
      simp [first]
    obtain ⟨content, broken, comment⟩ := isOpen.comment first rest
    exact ⟨content, broken, lastFrom_pass comment found⟩
  induction visits generalizing found with
  | here text => exact hides isOpen found
  | @skip c text place plain later ih =>
    by_cases sooner : IsOpen (c :: text)
    · exact hides sooner found
    · rw [lastFrom_skip_line plain double fun isOpen => absurd isOpen sooner]
      exact ih isOpen found
  | @pass text last place assertion comment later ih =>
    by_cases sooner : IsOpen text
    · exact hides sooner found
    · rw [lastFrom_pass_line comment double fun isOpen => absurd isOpen sooner]
      exact ih isOpen _

theorem Visits.isSuffix {place : List Char} (visits : Visits text place) : place <:+ text := by
  induction visits with
  | here text => exact List.suffix_rfl
  | skip plain later ih => exact ih.trans (List.suffix_cons _ _)
  | pass comment later ih => exact ih.trans comment.isSuffix

theorem LeavesOpen.mem (leaves : LeavesOpen text) : '\x27' ∈ text := by
  rcases leaves with ⟨place, visits, isOpen⟩
  apply visits.isSuffix.subset
  cases isOpen with
  | intro blank announces =>
    have inside := announces.isSuffix.subset List.mem_cons_self
    simp [inside]

/-- Where neither quote stands twice, no expected output is found. -/
theorem lastFrom_of_count (found : Option Assertion)
    (once : ∀ quote, IsQuote quote → text.count quote ≤ 1) :
    lastFrom found text = found ∨ lastFrom found text = some .fail := by
  fun_induction lastFrom found text with
  | case1 found => exact .inl rfl
  | case2 found c text none ih =>
    exact ih fun quote isQuote => List.count_le_count_cons.trans (once quote isQuote)
  | case3 found c text assertion rest some shorter ih =>
    have comment := comment?_eq_some_iff.1 some
    have behind := ih fun quote isQuote =>
      (comment.isSuffix.sublist.count_le quote).trans (once quote isQuote)
    cases comment with
    | @echo blanks text content rest quote blank isQuote within announces =>
      have twice := (announces.isSuffix.sublist.count_le quote).trans
        ((List.sublist_append_right ('/' :: '/' :: blanks) text).count_le quote)
      have atMost := once quote isQuote
      simp only [List.count_cons, List.count_append, beq_self_eq_true, if_true] at twice atMost
      omega
    | fail => exact .inr (behind.elim id id)
  | case4 found c text assertion rest some longer =>
    exact absurd (comment?_eq_some_iff.1 some).length_lt longer

/-- What is hidden by an open comment is not found: the text taken for the expected output has a
line end in it, and only one quote is left behind it. -/
theorem lastFrom_ne_of_leavesOpen {front expected : List Char} (leaves : LeavesOpen text)
    (double : '"' ∉ front) (first : '\x27' ∉ front)
    (plain : ∀ c ∈ expected, c ≠ '\x27' ∧ c ≠ '"' ∧ c ≠ '\n') (found : Option Assertion) :
    lastFrom found (text ++ '\n' :: '/' :: (front ++ '\x27' :: (expected ++ ['\x27']))) ≠
      some (.echo (.ofList expected)) := by
  have noSingle : '\x27' ∉ expected := fun inside => (plain _ inside).1 rfl
  have noDouble : '"' ∉ expected := fun inside => (plain _ inside).2.1 rfl
  have unbroken : '\n' ∉ expected := fun inside => (plain _ inside).2.2 rfl
  have once : ∀ quote, IsQuote quote → (expected ++ ['\x27']).count quote ≤ 1 := by
    rintro quote (rfl | rfl)
    · simp [List.count_eq_zero.2 noSingle]
    · simp [List.count_eq_zero.2 noDouble]
  rcases leaves with ⟨place, visits, isOpen⟩
  obtain ⟨content, broken, hidden⟩ := lastFrom_hidden visits isOpen
    (by simp [double, noDouble] : '"' ∉ front ++ '\x27' :: (expected ++ ['\x27'])) first found
  rw [hidden]
  rcases lastFrom_of_count (some (.echo (.ofList content))) once with same | failed
  · rw [same]
    intro equal
    obtain rfl := String.ofList_injective (Assertion.echo.inj (Option.some.inj equal))
    exact unbroken broken
  · rw [failed]
    intro equal
    cases equal

theorem isBlank_space : ∀ c ∈ [' '], isBlank c = true := by
  simp only [List.mem_singleton, forall_eq]
  decide

theorem announces_spaced (quote : Char) (behind : List Char) :
    Announces ("assertEcho".toList ++ ([' '] ++ quote :: behind)) quote behind :=
  .intro isBlank_space (List.cons_ne_nil _ _)

/-- The usual form of a comment, with single spaces. -/
theorem comment_spaced {quote : Char} {content : List Char} (isQuote : IsQuote quote)
    (within : quote ∉ content) (rest : List Char) :
    Comment ('/' :: '/' :: ([' '] ++ ("assertEcho".toList ++
      ([' '] ++ quote :: (content ++ quote :: rest))))) (.echo (.ofList content)) rest :=
  .echo isBlank_space isQuote within (announces_spaced quote _)

/-- The last line of a script is its assertion. The expected output is any text without quotes and
line ends. An earlier comment can hide it in one way only, which is a single quote left open. An
expected failure is never hidden. -/
theorem ofSource?_lastLine (script expected : String)
    (plain : ∀ c ∈ expected.toList, c ≠ '\x27' ∧ c ≠ '"' ∧ c ≠ '\n') :
    (ofSource? (script ++ "\n// assertEcho '" ++ expected ++ "'") = some (.echo expected) ↔
      ¬LeavesOpen script.toList) ∧
    ofSource? (script ++ "\n// assertFail") = some .fail := by
  constructor
  · have split : (script ++ "\n// assertEcho '" ++ expected ++ "'").toList = script.toList ++
        '\n' :: '/' :: ("/ assertEcho ".toList ++ '\x27' :: (expected.toList ++ ['\x27'])) := by
      simp
    have single : '\x27' ∉ expected.toList := fun inside => (plain _ inside).1 rfl
    have double : '"' ∉ "/ assertEcho ".toList ++ '\x27' :: (expected.toList ++ ['\x27']) := by
      simpa using fun inside => (plain _ inside).2.1 rfl
    rw [ofSource?, split]
    constructor
    · intro found leaves
      have clean : '"' ∉ "/ assertEcho ".toList ∧ '\x27' ∉ "/ assertEcho ".toList := by
        decide
      apply lastFrom_ne_of_leavesOpen leaves clean.1 clean.2 plain none
      rw [found, String.ofList_toList]
    · intro closed
      rw [lastFrom_line double fun leaves => absurd leaves closed]
      apply (lastFrom_pass (comment_spaced (.inl rfl) single []) _).trans
      rw [lastFrom, String.ofList_toList]
  · have split : (script ++ "\n// assertFail").toList =
        script.toList ++ '\n' :: '/' :: "/ assertFail".toList := by
      simp
    have comment : Comment ('/' :: '/' :: ([' '] ++ ("assertFail".toList ++ []))) .fail [] :=
      .fail isBlank_space (by simp)
    rw [ofSource?, split, lastFrom_line (by decide) fun _ => by decide]
    apply (lastFrom_pass comment _).trans
    rw [lastFrom]

/-- Neither an earlier assertion nor a double quote left open hides the last line. -/
theorem ofSource?_lastLine_of_unmatched :
    (∀ c ∈ "1 // 2".toList, c ≠ '\x27' ∧ c ≠ '"' ∧ c ≠ '\n') ∧
    ofSource? ("<? echo 1; // assertFail // assertEcho \"" ++ "\n// assertEcho '" ++ "1 // 2" ++
      "'") = some (.echo "1 // 2") :=
  ⟨by simp, (ofSource?_lastLine _ _ (by simp)).1.2 fun leaves => absurd leaves.mem (by decide)⟩

/-- A single quote left open takes the last line for a part of the expected output. -/
theorem hides_behind_open_quote : LeavesOpen "// assertEcho '".toList ∧
    ofSource? ("// assertEcho '" ++ "\n// assertEcho '" ++ "t" ++ "'") =
      some (.echo "\n// assertEcho ") := by
  have isOpen : IsOpen ('/' :: '/' :: ([' '] ++ ("assertEcho".toList ++ ([' '] ++ ['\x27'])))) :=
    .intro isBlank_space (announces_spaced '\x27' []) List.not_mem_nil
  have within : '\x27' ∉ "\n// assertEcho ".toList := by
    decide
  constructor
  · exact ⟨_, .here _, isOpen⟩
  · show lastFrom none "// assertEcho '\n// assertEcho 't'".toList = _
    apply (lastFrom_pass (comment_spaced (.inl rfl) within ['t', '\x27']) none).trans
    rw [lastFrom_skip, lastFrom_skip, lastFrom]
    · rfl
    · intro assertion rest comment
      cases comment
    · intro assertion rest comment
      cases comment

end TagScript.Assertion

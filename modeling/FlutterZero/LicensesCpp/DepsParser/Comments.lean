import FlutterZero.LicensesCpp.DepsParser

/-! # Comment lines in a deps block

* `IsCommentLine`, `InsertedInDeps` — comment lines, and texts with more of them in the deps block;
* `clean_inserted` — nothing of them is left when the block is cleaned;
* `depsContent_inserted` — lines whose braces are balanced do not move the end of the block;
* `parse_inserted_iff` — the comment lines that no text depends on.
-/

namespace FlutterZero.LicensesCpp.DepsParser

open FlutterZero.Lib

/-! ## Comment lines -/

/-- The first character that is no blank is a number sign. -/
def IsCommentLine (line : List Char) : Prop := '\n' ∉ line ∧ (line.dropWhile isBlank).head? = some '#'

instance (line : List Char) : Decidable (IsCommentLine line) := inferInstanceAs (Decidable (_ ∧ _))

/-- Lines are put into a text, in this order and each at the start of a line, which is or is not where the
text starts. -/
inductive Inserted : Bool → List (List Char) → List Char → List Char → Prop
  | done {start} : Inserted start [] [] []
  | keep {start comments text other} (c : Char) (inserted : Inserted (c = '\n') comments text other) :
    Inserted start comments (c :: text) (c :: other)
  | line {comments text other} (comment : List Char) (inserted : Inserted true comments text other) :
    Inserted true (comment :: comments) text (comment ++ '\n' :: other)

/-- Lines are put into the deps block, which goes as far as the parser takes it to go, if it is not closed as
far as the text goes. -/
inductive InsertedInDeps (comments : List (List Char)) : List Char → List Char → Prop
  | closed {front rest content other behind} (found : findAndConsume (front ++ rest) = some rest)
      (closed : depsContent 1 rest = some content) (splits : rest = content ++ behind)
      (inserted : Inserted false comments content other) :
    InsertedInDeps comments (front ++ rest) (front ++ (other ++ behind))
  | unclosed {front rest other} (found : findAndConsume (front ++ rest) = some rest)
      (unclosed : depsContent 1 rest = none) (inserted : Inserted false comments rest other) :
    InsertedInDeps comments (front ++ rest) (front ++ other)

/-! ## The start of the block stays where it is -/

theorem dropWhile_isSpace_append (text rest : List Char) :
    (text ++ '{' :: rest).dropWhile isSpace = text.dropWhile isSpace ++ '{' :: rest := by
  induction text with
  | nil => rfl
  | cons c text ih =>
    rw [List.cons_append, List.dropWhile_cons, List.dropWhile_cons]
    split
    · exact ih
    · rfl

theorem dropPrefix?_append {word : List Char} (noBrace : '{' ∉ word) (text rest : List Char) :
    (text ++ '{' :: rest).dropPrefix? word = (text.dropPrefix? word).map (· ++ '{' :: rest) := by
  induction word generalizing text with
  | nil => simp
  | cons letter word ih =>
    rw [List.mem_cons, not_or] at noBrace
    cases text with
    | nil => simp [List.dropPrefix?, noBrace.1]
    | cons c text =>
      rw [List.cons_append, List.dropPrefix?, List.dropPrefix?]
      split
      · exact ih noBrace.2 text
      · rfl

theorem consumeDeps_append (text rest : List Char) :
    consumeDeps (text ++ '{' :: rest) = (consumeDeps (text ++ ['{'])).map (· ++ rest) := by
  unfold consumeDeps
  rw [dropPrefix?_append (by decide), dropPrefix?_append (by decide)]
  cases text.dropPrefix? "deps".toList with
  | none => rfl
  | some afterName =>
    simp only [Option.map_some, Option.bind_eq_bind, Option.bind_some]
    rw [dropWhile_isSpace_append, dropWhile_isSpace_append, dropPrefix?_append (by decide),
      dropPrefix?_append (by decide)]
    cases (afterName.dropWhile isSpace).dropPrefix? ['='] with
    | none => rfl
    | some afterSign =>
      simp only [Option.map_some, Option.bind_some]
      rw [dropWhile_isSpace_append, dropWhile_isSpace_append]
      cases afterSign.dropWhile isSpace with
      | nil => simp [List.dropPrefix?]
      | cons c more => by_cases brace : c = '{' <;> simp [List.dropPrefix?, brace]

theorem consumeBehindNewline_append (text rest : List Char) :
    consumeBehindNewline (text ++ '{' :: rest) =
      ((consumeBehindNewline (text ++ ['{'])).map (· ++ rest)).or (consumeBehindNewline rest) := by
  induction text with
  | nil => rfl
  | cons c text ih =>
    rw [List.cons_append, List.cons_append, consumeBehindNewline, consumeBehindNewline]
    split
    · rw [consumeDeps_append, ih, Option.map_or, Option.or_assoc]
    · exact ih

theorem findAndConsume_append (text rest : List Char) :
    findAndConsume (text ++ '{' :: rest) =
      ((findAndConsume (text ++ ['{'])).map (· ++ rest)).or (consumeBehindNewline rest) := by
  unfold findAndConsume
  rw [consumeDeps_append, consumeBehindNewline_append, Option.map_or, Option.or_assoc]

theorem exists_of_consumeDeps {text rest : List Char} (found : consumeDeps text = some rest) :
    ∃ front, text = front ++ '{' :: rest := by
  unfold consumeDeps at found
  obtain ⟨afterName, first, found⟩ := Option.bind_eq_some_iff.mp found
  obtain ⟨afterSign, second, third⟩ := Option.bind_eq_some_iff.mp found
  obtain ⟨name, rfl, _⟩ := List.dropPrefix?_eq_some_iff.mp first
  obtain ⟨sign, afterName_eq, _⟩ := List.dropPrefix?_eq_some_iff.mp second
  obtain ⟨brace, afterSign_eq, isBrace⟩ := List.dropPrefix?_eq_some_iff.mp third
  obtain rfl : brace = ['{'] := eq_of_beq isBrace
  have inName : afterName = afterName.takeWhile isSpace ++ (sign ++ afterSign) := by
    rw [← afterName_eq, List.takeWhile_append_dropWhile]
  have inSign : afterSign = afterSign.takeWhile isSpace ++ '{' :: rest := by
    rw [← List.singleton_append, ← afterSign_eq, List.takeWhile_append_dropWhile]
  exact ⟨name ++ (afterName.takeWhile isSpace ++ (sign ++ afterSign.takeWhile isSpace)), by
    simpa only [List.append_assoc, ← inSign] using congrArg (name ++ ·) inName⟩

theorem exists_of_consumeBehindNewline {text rest : List Char} (found : consumeBehindNewline text = some rest) :
    ∃ front, text = front ++ '{' :: rest := by
  induction text with
  | nil => nomatch found
  | cons c text ih =>
    have behind : ∃ front, text = front ++ '{' :: rest := by
      rw [consumeBehindNewline] at found
      split at found
      · obtain here | ⟨_, later⟩ := Option.or_eq_some_iff.mp found
        · exact exists_of_consumeDeps here
        · exact ih later
      · exact ih found
    obtain ⟨front, rfl⟩ := behind
    exact ⟨c :: front, rfl⟩

variable {front rest : List Char}

theorem findAndConsume_replace (found : findAndConsume (front ++ rest) = some rest)
    (other : List Char) : findAndConsume (front ++ other) = some other := by
  obtain ⟨text, rfl⟩ : ∃ text, front = text ++ ['{'] := by
    have brace : ∃ text, front ++ rest = text ++ '{' :: rest := by
      obtain here | ⟨_, later⟩ := Option.or_eq_some_iff.mp found
      · exact exists_of_consumeDeps here
      · exact exists_of_consumeBehindNewline later
    obtain ⟨text, same⟩ := brace
    exact ⟨text, List.append_cancel_right (by rw [same, List.append_assoc, List.singleton_append])⟩
  rw [List.append_assoc, List.singleton_append] at found ⊢
  rw [findAndConsume_append] at found ⊢
  cases start : findAndConsume (text ++ ['{']) with
  | none =>
    rw [start] at found
    obtain ⟨before, longer⟩ := exists_of_consumeBehindNewline (Option.none_or.symm.trans found)
    have := congrArg List.length longer
    simp only [List.length_append, List.length_cons] at this
    omega
  | some unread =>
    rw [start] at found
    obtain rfl : unread = [] := List.append_left_eq_self.mp (Option.some.inj found)
    rfl

/-! ## Its end -/

variable {level : Nat}

theorem depsContent_cons {next : Nat} {c : Char} (step : nest '{' '}' level c = some next) (rest : List Char) :
    depsContent (level + 1) (c :: rest) = (depsContent (next + 1) rest).map (c :: ·) := by
  rw [depsContent]
  unfold nest at step
  split_ifs at step with isOpening isClosing atZero
  · cases step
    rw [if_pos isOpening]
  · cases step
    rw [if_neg isOpening, if_pos isClosing, Nat.add_sub_cancel, if_neg atZero, Nat.sub_add_cancel]
    exact Nat.pos_of_ne_zero atZero
  · cases step
    rw [if_neg isOpening, if_neg isClosing]

theorem depsContent_closes {level : Nat} {content : List Char} (nested : nesting '{' '}' level content = some 0)
    (behind : List Char) : depsContent (level + 1) (content ++ '}' :: behind) = some content := by
  induction content generalizing level with
  | nil =>
    cases nested
    rfl
  | cons c rest ih =>
    obtain ⟨next, step, nested⟩ := Option.bind_eq_some_iff.mp nested
    rw [List.cons_append, depsContent_cons step, ih nested, Option.map_some]

variable {text : List Char}

theorem depsContent_open {after : Nat} (nested : nesting '{' '}' level text = some after) :
    depsContent (level + 1) text = none := by
  induction text generalizing level with
  | nil => rfl
  | cons c rest ih =>
    obtain ⟨next, step, nested⟩ := Option.bind_eq_some_iff.mp nested
    rw [depsContent_cons step, ih nested, Option.map_none]

theorem depsContent_eq_some {text content : List Char} (closed : depsContent 1 text = some content) :
    nesting '{' '}' 0 content = some 0 ∧ ∃ behind, text = content ++ '}' :: behind := by
  cases nested : nesting '{' '}' 0 text with
  | some after => nomatch (depsContent_open nested).symm.trans closed
  | none =>
    obtain ⟨before, behind, rfl, balanced⟩ := nesting_eq_none nested
    obtain rfl : before = content := Option.some.inj ((depsContent_closes balanced behind).symm.trans closed)
    exact ⟨balanced, behind, rfl⟩

theorem depsContent_eq_none (unclosed : depsContent 1 text = none) :
    ∃ after, nesting '{' '}' 0 text = some after := by
  cases nested : nesting '{' '}' 0 text with
  | some after => exact ⟨after, rfl⟩
  | none =>
    obtain ⟨before, behind, rfl, balanced⟩ := nesting_eq_none nested
    nomatch (depsContent_closes balanced behind).symm.trans unclosed

/-! ## Lines -/

variable {line : List Char}

theorem lines_append (noNewline : '\n' ∉ line) (rest : List Char) :
    lines (line ++ '\n' :: rest) = line :: lines rest := by
  induction line with
  | nil => rfl
  | cons c line ih =>
    rw [List.mem_cons, not_or] at noNewline
    rw [List.cons_append, lines, if_neg (Ne.symm noNewline.1), ih noNewline.2]

theorem lines_alone (noNewline : '\n' ∉ line) (nonempty : line ≠ []) : lines line = [line] := by
  induction line with
  | nil => exact absurd rfl nonempty
  | cons c line ih =>
    rw [List.mem_cons, not_or] at noNewline
    rw [lines, if_neg (Ne.symm noNewline.1)]
    cases line with
    | nil => rfl
    | cons d line => rw [ih noNewline.2 (List.cons_ne_nil d line)]

theorem clean_append (noNewline : '\n' ∉ line) (rest : List Char) :
    clean (line ++ '\n' :: rest) = cleanLine line ++ clean rest := by
  rw [clean, lines_append noNewline, List.flatMap_cons, clean]

theorem cleanLine_comment (comment : IsCommentLine line) : cleanLine line = [] :=
  if_pos comment.2

theorem clean_comment (comment : IsCommentLine line) : clean line = [] := by
  have nonempty : line ≠ [] := by
    rintro rfl
    nomatch comment.2
  rw [clean, lines_alone comment.1 nonempty, List.flatMap_cons, cleanLine_comment comment]
  rfl

variable {comments : List (List Char)} {other : List Char}

theorem clean_inserted {start : Bool}
    (inserted : Inserted start comments text other) (areComments : ∀ comment ∈ comments, IsCommentLine comment)
    (noNewline : '\n' ∉ line) (atStart : start = true → line = []) :
    clean (line ++ other) = clean (line ++ text) := by
  induction inserted generalizing line with
  | done => rfl
  | @keep start comments text other c inserted ih =>
    by_cases newline : c = '\n'
    · rw [newline, clean_append noNewline, clean_append noNewline]
      exact congrArg _ (ih areComments List.not_mem_nil fun _ => rfl)
    · rw [List.append_cons line c other, List.append_cons line c text]
      refine ih areComments ?_ fun here => absurd (of_decide_eq_true here) newline
      simpa [noNewline] using Ne.symm newline
  | @line comments text other comment inserted ih =>
    obtain rfl := atStart rfl
    obtain ⟨isComment, areComments⟩ := List.forall_mem_cons.mp areComments
    rw [List.nil_append, clean_append isComment.1, cleanLine_comment isComment, List.nil_append]
    exact ih areComments List.not_mem_nil fun _ => rfl

/-! ## Balanced lines -/

theorem nesting_inserted {start : Bool} (inserted : Inserted start comments text other) {after more left : Nat}
    (nested : nesting '{' '}' level text = some after) (commented : nesting '{' '}' more comments.flatten = some left) :
    nesting '{' '}' (level + more) other = some (after + left) := by
  induction inserted generalizing level more with
  | done =>
    cases nested
    cases commented
    rfl
  | keep c inserted ih =>
    obtain ⟨next, step, nested⟩ := Option.bind_eq_some_iff.mp nested
    rw [nesting_cons, nest_add step, Option.bind_some]
    exact ih nested commented
  | line comment inserted ih =>
    rw [List.flatten_cons, nesting_append] at commented
    obtain ⟨between, first, commented⟩ := Option.bind_eq_some_iff.mp commented
    rw [Nat.add_comm, nesting_append_of_some (nesting_add first level), Nat.add_comm,
      nesting_cons_of_ne (by decide) (by decide)]
    exact ih nested commented

theorem parse_of_content {content : List Char} (found : findAndConsume (front ++ rest) = some rest)
    (closed : depsContent 1 rest = some content) : parse (front ++ rest) = keys (clean content) := by
  rw [parse, found]
  dsimp only
  rw [closed]

theorem parse_of_unclosed (found : findAndConsume (front ++ rest) = some rest)
    (unclosed : depsContent 1 rest = none) : parse (front ++ rest) = [] := by
  rw [parse, found]
  dsimp only
  rw [unclosed]

theorem parse_inserted
    (inserted : InsertedInDeps comments text other) (areComments : ∀ comment ∈ comments, IsCommentLine comment)
    (balanced : Balanced '{' '}' comments.flatten) : parse other = parse text := by
  cases inserted with
  | @closed front rest content other behind found closed splits inserted =>
    obtain ⟨nested, after, splits'⟩ := depsContent_eq_some closed
    obtain rfl : behind = '}' :: after := List.append_cancel_left (splits.symm.trans splits')
    have closedAfter := depsContent_closes (nesting_inserted inserted nested balanced) after
    rw [parse_of_content found closed, parse_of_content (findAndConsume_replace found _) closedAfter]
    exact congrArg keys (clean_inserted inserted areComments List.not_mem_nil fun _ => rfl)
  | @unclosed front rest other found unclosed inserted =>
    obtain ⟨after, nested⟩ := depsContent_eq_none unclosed
    have unclosedAfter := depsContent_open (nesting_inserted inserted nested balanced)
    rw [parse_of_unclosed found unclosed, parse_of_unclosed (findAndConsume_replace found _) unclosedAfter]

/-! ## Other lines -/

theorem Inserted.refl (start : Bool) (text : List Char) : Inserted start [] text text := by
  induction text generalizing start with
  | nil => exact .done
  | cons c text ih => exact .keep c (ih _)

/-- The lines, one after the other. -/
def joined (comments : List (List Char)) : List Char := comments.flatMap (· ++ ['\n'])

theorem Inserted.joined (comments : List (List Char)) (text : List Char) :
    Inserted true comments text (DepsParser.joined comments ++ text) := by
  induction comments with
  | nil => exact Inserted.refl true text
  | cons comment comments ih =>
    rw [DepsParser.joined, List.flatMap_cons, List.append_assoc, List.append_assoc]
    exact .line comment ih

theorem nesting_joined (level : Nat) (comments : List (List Char)) :
    nesting '{' '}' level (joined comments) = nesting '{' '}' level comments.flatten := by
  induction comments generalizing level with
  | nil => rfl
  | cons comment comments ih =>
    rw [joined, List.flatMap_cons, List.append_assoc, List.flatten_cons, nesting_append, nesting_append]
    refine congrArg _ (funext fun next => ?_)
    rw [List.singleton_append, nesting_cons_of_ne (by decide) (by decide)]
    exact ih next

theorem IsCommentLine.of_append {line rest : List Char} (comment : IsCommentLine (line ++ '}' :: rest)) :
    IsCommentLine line := by
  refine ⟨fun newline => comment.1 (List.mem_append_left _ newline), ?_⟩
  have first := comment.2
  rw [List.dropWhile_append] at first
  split at first
  case isTrue none => nomatch first
  case isFalse some =>
    rwa [List.head?_append_of_ne_nil _ (by simpa using some)] at first

theorem clean_of_joined {comments : List (List Char)} (areComments : ∀ comment ∈ comments, IsCommentLine comment)
    {before behind : List Char} (cut : joined comments = before ++ '}' :: behind) : clean before = [] := by
  induction comments generalizing before with
  | nil => exact absurd (congrArg List.length cut) (by simp [joined])
  | cons comment comments ih =>
    obtain ⟨isComment, areComments⟩ := List.forall_mem_cons.mp areComments
    rw [joined, List.flatMap_cons, List.append_assoc, List.singleton_append] at cut
    obtain ⟨more, rfl, rest⟩ | ⟨more, rfl, rest⟩ := List.append_eq_append_iff.mp cut
    · cases more with
      | nil => nomatch rest
      | cons newline more =>
        obtain ⟨rfl, inRest⟩ := List.cons.inj rest
        rw [clean_append isComment.1, cleanLine_comment isComment, List.nil_append]
        exact ih areComments inRest
    · cases more with
      | nil => nomatch rest
      | cons brace more =>
        obtain ⟨rfl, _⟩ := List.cons.inj rest
        exact clean_comment isComment.of_append

def dependency : List Char := "'a':\x7b'dep_type': 'cipd'\x7d\n".toList

theorem parse_dependency : parse ("deps=\x7b".toList ++ '\n' :: (dependency ++ ['}'])) = [['a']] := by decide

def behindComments (comments : List (List Char)) : List Char :=
  "deps=\x7b".toList ++ ('\n' :: (joined comments ++ dependency) ++ ['}'])

theorem insertedInDeps_dependency (comments : List (List Char)) :
    InsertedInDeps comments ("deps=\x7b".toList ++ '\n' :: (dependency ++ ['}'])) (behindComments comments) :=
  have closed : depsContent 1 ('\n' :: (dependency ++ ['}'])) = some ('\n' :: dependency) := by decide
  .closed (by decide) closed rfl (.keep '\n' (Inserted.joined comments dependency))

theorem parse_behindComments (areComments : ∀ comment ∈ comments, IsCommentLine comment)
    (unbalanced : ¬ Balanced '{' '}' comments.flatten) : parse (behindComments comments) = [] := by
  have start : findAndConsume ("deps=\x7b".toList ++ []) = some [] := by decide
  have found : ∀ rest, findAndConsume ("deps=\x7b".toList ++ rest) = some rest := findAndConsume_replace start
  unfold behindComments
  cases nested : nesting '{' '}' 0 (joined comments) with
  | none =>
    obtain ⟨before, behind, cut, balanced⟩ := nesting_eq_none nested
    have closed : depsContent 1 ('\n' :: (joined comments ++ dependency) ++ ['}']) = some ('\n' :: before) := by
      have behindNewline : nesting '{' '}' 0 ('\n' :: before) = some 0 := by
        rwa [nesting_cons_of_ne (by decide) (by decide)]
      rw [cut, List.cons_append, List.append_assoc, List.append_assoc, List.cons_append, ← List.cons_append]
      exact depsContent_closes behindNewline _
    rw [parse_of_content (found _) closed]
    have cleaned : clean ([] ++ '\n' :: before) = ['\n'] := by
      rw [clean_append List.not_mem_nil, clean_of_joined areComments cut]
      rfl
    rw [List.nil_append] at cleaned
    rw [cleaned]
    rfl
  | some level =>
    cases level with
    | zero => exact absurd ((nesting_joined 0 comments).symm.trans nested) unbalanced
    | succ level =>
      have inDependency : Balanced '{' '}' dependency := by decide
      have left : nesting '{' '}' 0 ('\n' :: (joined comments ++ dependency) ++ ['}']) = some level := by
        rw [List.cons_append, nesting_cons_of_ne (by decide) (by decide), List.append_assoc,
          nesting_append_of_some nested, nesting_append_of_some (inDependency.nesting _), nesting_cons,
          nest_closing (by decide)]
        rfl
      exact parse_of_unclosed (found _) (depsContent_open left)

theorem parse_inserted_iff (areComments : ∀ comment ∈ comments, IsCommentLine comment) :
    (∀ text other, InsertedInDeps comments text other → parse other = parse text) ↔
      Balanced '{' '}' comments.flatten := by
  refine ⟨fun ignored => ?_, fun balanced text other inserted => parse_inserted inserted areComments balanced⟩
  by_contra unbalanced
  have same := ignored _ _ (insertedInDeps_dependency comments)
  rw [parse_behindComments areComments unbalanced, parse_dependency] at same
  nomatch same

end FlutterZero.LicensesCpp.DepsParser

import ProviderCode.Proofs.PrintedAdapters

/-!
# Statements of generated functions

The body of a generated function as statements that tell where a local variable is declared and where
it is read.  Fixed text, texts of the specification and the names of local variables are kept apart, and
the text of a function is that of its statements.

A variable that is declared and not read later in its scope is an error in the generated code:
`Statement.unread` lists these.  `Statement.unread_append` and `Statement.unread_flatMap` take a body
apart, whatever the number of the groups in it.
-/

namespace ProviderCode

/-! ### Words -/

/-- A word of a statement. -/
inductive Word
  /-- Fixed text. -/
  | code (text : String)
  /-- The value of a local variable. -/
  | read (name : String)
  /-- A name or an expression of the specification. -/
  | given (text : String)

abbrev Words := List Word

@[simp] def Word.text : Word → String
  | .code text | .given text => text
  | .read name => name

/-- The local variable that a word reads. -/
@[simp] def Word.reads : Word → List String
  | .read name => [name]
  | .code _ | .given _ => []

/-- The fixed text that a word is. -/
@[simp] def Word.codes : Word → List String
  | .code text => [text]
  | .read _ | .given _ => []

namespace Words

def text (words : Words) : String := String.join (words.map Word.text)

/-- The local variables that are read. -/
def reads (words : Words) : List String := words.flatMap Word.reads

/-- The fixed texts. -/
def codes (words : Words) : List String := words.flatMap Word.codes

@[simp] theorem text_nil : text [] = "" := rfl

@[simp] theorem text_cons (word : Word) (words : Words) :
    text (word :: words) = word.text ++ text words := by
  rw [text, List.map_cons, String.join_cons, text]

@[simp] theorem text_append (a b : Words) : text (a ++ b) = text a ++ text b := by
  rw [text, List.map_append, String.join_append, text, text]

@[simp] theorem reads_nil : reads [] = [] := rfl

@[simp] theorem reads_cons (word : Word) (words : Words) :
    reads (word :: words) = word.reads ++ reads words :=
  List.flatMap_cons

@[simp] theorem reads_append (a b : Words) : reads (a ++ b) = reads a ++ reads b :=
  List.flatMap_append

@[simp] theorem codes_nil : codes [] = [] := rfl

@[simp] theorem codes_cons (word : Word) (words : Words) :
    codes (word :: words) = word.codes ++ codes words :=
  List.flatMap_cons

@[simp] theorem codes_append (a b : Words) : codes (a ++ b) = codes a ++ codes b :=
  List.flatMap_append

theorem text_flatMap {α : Type} (group : α → Words) (as : List α) :
    text (as.flatMap group) = eachField (fun a => text (group a)) as :=
  text_flatMap_eq text_nil text_append group as

/-- What a group reads is read in all groups together. -/
theorem reads_subset_flatMap {α : Type} (group : α → Words) {a : α} {as : List α} (h : a ∈ as) :
    reads (group a) ⊆ reads (as.flatMap group) := by
  obtain ⟨before, after, rfl⟩ := List.append_of_mem h
  rw [List.flatMap_append, List.flatMap_cons, reads_append, reads_append]
  intro name hname
  exact List.mem_append_right _ (List.mem_append_left _ hname)

end Words

/-! ### Statements -/

/-- A statement of a function. -/
inductive Statement
  /-- An empty line. -/
  | blank
  /-- Declares variables by what they are. -/
  | declare (names : List String) (value : Words)
  /-- Declares a variable by its type. -/
  | variable (name : String) (type : Words)
  /-- Changes variables, which is not to read them. -/
  | assign (names : List String) (value : Words)
  /-- A call, or the result. -/
  | run (words : Words)
  /-- Statements with a scope of their own. -/
  | scope (opening : Words) (body : List Statement)
  /-- Statements of one case, which have a scope of their own. -/
  | branch (opening : Words) (body : List Statement)
  /-- Statements with a scope of their own, and variables that are declared before it opens. -/
  | scopeOf (keyword : String) (names : List String) (value condition : Words) (body : List Statement)

/-- Names with commas in between. -/
@[simp] def joinNames : List String → String
  | [] => ""
  | [name] => name
  | name :: rest => name ++ ", " ++ joinNames rest

@[simp] def indent : Nat → String
  | 0 => ""
  | depth + 1 => "\t" ++ indent depth

namespace Statement

mutual

/-- The text of a statement at a depth. -/
@[simp] def text (depth : Nat) : Statement → String
  | .blank => "\n"
  | .declare names value => indent depth ++ joinNames names ++ " := " ++ value.text ++ "\n"
  | .variable name type => indent depth ++ "var " ++ name ++ " " ++ type.text ++ "\n"
  | .assign names value => indent depth ++ joinNames names ++ " = " ++ value.text ++ "\n"
  | .run words => indent depth ++ words.text ++ "\n"
  | .scope opening body =>
    indent depth ++ opening.text ++ " \x7b\n" ++ texts (depth + 1) body ++ indent depth ++ "\x7d\n"
  | .branch opening body => indent (depth - 1) ++ opening.text ++ ":\n" ++ texts depth body
  | .scopeOf keyword names value condition body =>
    indent depth ++ keyword ++ " " ++ joinNames names ++ " := " ++ value.text ++ condition.text ++
      " \x7b\n" ++ texts (depth + 1) body ++ indent depth ++ "\x7d\n"
termination_by structural statement => statement

/-- The text of statements at a depth. -/
@[simp] def texts (depth : Nat) : List Statement → String
  | [] => ""
  | statement :: rest => statement.text depth ++ texts depth rest
termination_by structural statements => statements

end

/-- The variables that a statement declares in the scope that it stands in. -/
@[simp] def declares : Statement → List String
  | .declare names _ => names
  | .variable name _ => [name]
  | .blank | .assign _ _ | .run _ | .scope _ _ | .branch _ _ | .scopeOf _ _ _ _ _ => []

mutual

/-- The variables of the scope around a statement that are read in it. -/
@[simp] def reads : Statement → List String
  | .blank => []
  | .declare _ value | .assign _ value => value.reads
  | .variable _ type => type.reads
  | .run words => words.reads
  | .scope opening body | .branch opening body => opening.reads ++ readsInside body
  | .scopeOf _ names value condition body =>
    value.reads ++ (condition.reads ++ readsInside body).filter (· ∉ names)
termination_by structural statement => statement

/-- The variables of the scope around a block that are read in it: one that is declared in the block
hides that of its name from there on. -/
@[simp] def readsInside : List Statement → List String
  | [] => []
  | statement :: rest => statement.reads ++ (readsInside rest).filter (· ∉ statement.declares)
termination_by structural statements => statements

end

mutual

/-- The variables declared inside a statement that are not read there later. -/
@[simp] def unreadInside : Statement → List String
  | .scope _ body | .branch _ body => unread [] body
  | .scopeOf _ names _ condition body =>
    names.filter (· ∉ condition.reads ++ readsInside body) ++ unread [] body
  | .blank | .declare _ _ | .variable _ _ | .assign _ _ | .run _ => []
termination_by structural statement => statement

/-- The variables declared in statements, those in scopes of their own included, that are not read
later in their scope, if others are read after the statements. -/
@[simp] def unread (later : List String) : List Statement → List String
  | [] => []
  | statement :: rest =>
    statement.unreadInside ++
      (statement.declares.filter (· ∉ rest.flatMap reads ++ later) ++ unread later rest)
termination_by structural statements => statements

end

mutual

/-- The fixed texts in a statement. -/
@[simp] def codes : Statement → List String
  | .blank => []
  | .declare _ value | .assign _ value => value.codes
  | .variable _ type => type.codes
  | .run words => words.codes
  | .scope opening body | .branch opening body => opening.codes ++ allCodes body
  | .scopeOf keyword _ value condition body =>
    keyword :: (value.codes ++ condition.codes ++ allCodes body)
termination_by structural statement => statement

/-- The fixed texts in statements. -/
@[simp] def allCodes : List Statement → List String
  | [] => []
  | statement :: rest => statement.codes ++ allCodes rest
termination_by structural statements => statements

end

/-! ### Bodies with groups of statements -/

theorem texts_append (depth : Nat) (a b : List Statement) :
    texts depth (a ++ b) = texts depth a ++ texts depth b := by
  induction a with
  | nil => rw [texts, List.nil_append, String.empty_append]
  | cons statement rest ih => rw [List.cons_append, texts, texts, ih, String.append_assoc]

theorem texts_flatMap {α : Type} (depth : Nat) (group : α → List Statement) (as : List α) :
    texts depth (as.flatMap group) = eachField (fun a => texts depth (group a)) as :=
  text_flatMap_eq rfl (texts_append depth) group as

theorem allCodes_append (a b : List Statement) : allCodes (a ++ b) = allCodes a ++ allCodes b := by
  induction a with
  | nil => rfl
  | cons statement rest ih => rw [List.cons_append, allCodes, allCodes, ih, List.append_assoc]

/-- What is read in the second part of a body is read later than the first. -/
theorem unread_append (later : List String) (a b : List Statement) :
    unread later (a ++ b) = unread (b.flatMap reads ++ later) a ++ unread later b := by
  induction a with
  | nil => rw [unread, List.nil_append, List.nil_append]
  | cons statement rest ih =>
    simp only [List.cons_append, unread, ih, List.flatMap_append, List.append_assoc]

/-- If each group reads the variables that it declares, or they are read after all groups, none is
unread. -/
theorem unread_flatMap {α : Type} {later : List String} {group : α → List Statement} {as : List α}
    (h : ∀ a ∈ as, ∀ reads, later ⊆ reads → unread reads (group a) = []) :
    unread later (as.flatMap group) = [] := by
  induction as with
  | nil => rfl
  | cons a as ih =>
    rw [List.flatMap_cons, unread_append, ih fun b hb => h b (List.mem_cons_of_mem _ hb),
      List.append_nil]
    exact h a List.mem_cons_self _ (List.subset_append_right _ _)

/-- If each group is read in a member of its own, and the members are read after all groups, no group is
unread. -/
theorem unread_flatMap_of_members {α : Type} {later : List String} {group : α → List Statement}
    {member : α → Words} {as : List α}
    (hgroup : ∀ a reads, (member a).reads ⊆ reads → unread reads (group a) = [])
    (hlater : Words.reads (as.flatMap member) ⊆ later) : unread later (as.flatMap group) = [] :=
  unread_flatMap fun a ha reads hreads => hgroup a reads fun _ hname =>
    hreads (hlater (Words.reads_subset_flatMap member ha hname))

end Statement

/-! ### Functions -/

/-- A generated function: its first line, and its body. -/
structure GeneratedFunction where
  header : String
  body : List Statement

/-- Whether characters are there in a row. -/
def holds (part : List Char) : List Char → Bool
  | [] => part.isEmpty
  | c :: cs => part.isPrefixOf (c :: cs) || holds part cs

/-- Whether fixed text declares no variable. -/
def declaresNothing (text : String) : Bool :=
  !holds [':', '='] text.toList && !holds ['v', 'a', 'r', ' '] text.toList

/-- Whether no declaration is hidden in the fixed texts of words. -/
def Words.hidesNothing (words : Words) : Bool := words.codes.all declaresNothing

theorem Words.hidesNothing_flatMap {α : Type} {group : α → Words}
    (h : ∀ a, hidesNothing (group a) = true) (as : List α) : hidesNothing (as.flatMap group) = true := by
  induction as with
  | nil => rfl
  | cons a as ih =>
    have ha := h a
    rw [hidesNothing] at ha ih
    rw [hidesNothing, List.flatMap_cons, codes_append, List.all_append, ha, ih, Bool.and_self]

/-- Whether no declaration is hidden in the fixed texts of statements. -/
def Statement.hidesNothing (statements : List Statement) : Bool :=
  (allCodes statements).all declaresNothing

theorem Statement.hidesNothing_append (a b : List Statement) :
    hidesNothing (a ++ b) = (hidesNothing a && hidesNothing b) := by
  rw [hidesNothing, allCodes_append, List.all_append, hidesNothing, hidesNothing]

theorem Statement.hidesNothing_flatMap {α : Type} {group : α → List Statement}
    (h : ∀ a, hidesNothing (group a) = true) (as : List α) :
    hidesNothing (as.flatMap group) = true := by
  induction as with
  | nil => rfl
  | cons a as ih => rw [List.flatMap_cons, hidesNothing_append, h, ih, Bool.and_self]

namespace GeneratedFunction

@[simp] def text (f : GeneratedFunction) : String :=
  "\n" ++ f.header ++ Statement.texts 1 f.body ++ "\x7d\n"

/-- The local variables of the function that are not read later. -/
def unread (f : GeneratedFunction) : List String := Statement.unread [] f.body

end GeneratedFunction

end ProviderCode

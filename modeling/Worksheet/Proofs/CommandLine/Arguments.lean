import Mathlib.Data.List.Basic
import Worksheet.CommandLine.Arguments

/-! # Requests as arguments

    A request is written as arguments part by part: the file stands alone, and an
    option stands in its short or long form in front of its value.  The parts may
    come in any order, as long as the assignments keep theirs.

      • A part takes just the arguments that it is written as, whatever they look
        like: behind an option the next argument is its value.  So the reading goes
        on with the next part, and the request has what the part says.
      • Behind all parts the request has everything that they say, and of repeated
        options the last. -/

namespace Worksheet.CommandLine

/-! ### Parts of a request -/

/-- The forms of an option. -/
inductive Form where
  | short
  | long
  deriving DecidableEq, Repr

/-- The argument that an option is in one of its forms. -/
def Setter.argument : Setter → Form → String
  | .cell, .short => "-s"
  | .cell, .long => "--set"
  | .output, .short => "-o"
  | .output, .long => "--output"
  | .config, .short => "-c"
  | .config, .long => "--config"

/-- A part of a request, with the form of its option. -/
inductive Part where
  | file (path : String)
  | assignment (form : Form) (cell content : String)
  | output (form : Form) (path : String)
  | config (form : Form) (path : String)
  deriving DecidableEq, Repr

namespace Part

/-- The arguments that a part is written as. -/
def arguments : Part → List String
  | .file path => [path]
  | .assignment form cell content => [Setter.cell.argument form, cell ++ "=" ++ content]
  | .output form path => [Setter.output.argument form, path]
  | .config form path => [Setter.config.argument form, path]

/-- The file to open, if the part names it. -/
def file? : Part → Option String
  | .file path => some path
  | _ => none

/-- The assignment, if the part is one. -/
def assigned? : Part → Option (String × String)
  | .assignment _ cell content => some (cell, content)
  | _ => none

/-- The file to save to, if the part names it. -/
def output? : Part → Option String
  | .output _ path => some path
  | _ => none

/-- The file with the settings, if the part names it. -/
def config? : Part → Option String
  | .config _ path => some path
  | _ => none

/-- The part is read as what it says: a file is not taken for an option, and the name
    of a cell has no equals sign and no blanks at its ends. -/
structure IsClear (part : Part) : Prop where
  file : ∀ path, part.file? = some path → path.toList.head? ≠ some '-'
  cell : ∀ cell content, part.assigned? = some (cell, content) →
    '=' ∉ cell.toList ∧ Text.trim cell.toList = cell.toList

end Part

namespace Request

/-- The request with what a part says. -/
def add (r : Request) : Part → Request
  | .file path => { r with file := some path }
  | .assignment _ cell content => { r with assignments := r.assignments ++ [(cell, content)] }
  | .output _ path => { r with output := some path }
  | .config _ path => { r with config := some path }

/-- The request can be written: its file is not taken for an option, and the names
    of its cells have no equals sign and no blanks at their ends. -/
structure IsWritable (r : Request) : Prop where
  file : ∀ path, r.file = some path → path.toList.head? ≠ some '-'
  cells : ∀ cell content, (cell, content) ∈ r.assignments →
    '=' ∉ cell.toList ∧ Text.trim cell.toList = cell.toList

/-- The parts say what the request holds: its file, its assignments in their order,
    and where it is saved and has its settings, each perhaps after others that do
    not count. -/
structure IsSaidBy (r : Request) (parts : List Part) : Prop where
  file : parts.filterMap Part.file? = r.file.toList
  assignments : parts.filterMap Part.assigned? = r.assignments
  output : (parts.filterMap Part.output?).getLast? = r.output
  config : (parts.filterMap Part.config?).getLast? = r.config

end Request

variable {request r : Request} {parts : List Part} {part : Part} {path : String}

/-! ### Reading one part -/

/-- A path that does not begin with a dash is no option. -/
theorem ofArgument_eq_none (hpath : path.toList.head? ≠ some '-') :
    path ≠ "-h" ∧ path ≠ "--help" ∧ Setter.ofArgument? path = none := by
  refine ⟨?_, ?_, ?_⟩
  · rintro rfl
    exact hpath rfl
  · rintro rfl
    exact hpath rfl
  · unfold Setter.ofArgument?
    split
    all_goals first | exact absurd rfl hpath | rfl

theorem ofArgument?_argument (setter : Setter) (form : Form) :
    Setter.ofArgument? (setter.argument form) = some setter := by
  cases setter <;> cases form <;> rfl

theorem argument_ne_help (setter : Setter) (form : Form) :
    ¬ (setter.argument form = "-h" ∨ setter.argument form = "--help") := by
  cases setter <;> cases form <;> decide

/-- The name of the cell ends at the first equals sign, and the content may have
    others. -/
theorem assignment?_append {cell : String} (h : '=' ∉ cell.toList) (content : String) :
    assignment? (cell ++ "=" ++ content) =
      some (String.ofList (Text.trim cell.toList), content) := by
  have hvalue : (cell ++ "=" ++ content).toList = cell.toList ++ '=' :: content.toList := by simp
  have hname : (cell.toList ++ '=' :: content.toList).takeWhile (· ≠ '=') = cell.toList := by
    have hcell : ∀ c ∈ cell.toList, decide (c ≠ '=') = true := by
      intro c hc
      rw [decide_eq_true_iff]
      rintro rfl
      exact h hc
    rw [List.takeWhile_append_of_pos hcell, List.takeWhile_cons_of_neg (by simp), List.append_nil]
  unfold assignment?
  rw [hvalue, hname]
  simp

/-- An option takes the argument behind it as its value, whatever that is. -/
theorem parseFrom_option (r : Request) (setter : Setter) (form : Form) (value : String)
    (rest : List String) :
    parseFrom r (setter.argument form :: value :: rest) =
      r.set setter value >>= fun r => parseFrom r rest := by
  rw [parseFrom.eq_def]
  dsimp only
  rw [if_neg (argument_ne_help setter form), ofArgument?_argument]

theorem parseFrom_file (hfile : r.file = none) (hpath : path.toList.head? ≠ some '-')
    (rest : List String) :
    parseFrom r (path :: rest) = parseFrom { r with file := some path } rest := by
  obtain ⟨hshort, hlong, hsetter⟩ := ofArgument_eq_none hpath
  have hset : r.setFile path = .ok { r with file := some path } := by
    rw [Request.setFile, if_neg hpath, hfile]
    rfl
  rw [parseFrom.eq_def]
  dsimp only
  rw [if_neg (by simp [hshort, hlong]), hsetter]
  dsimp only
  rw [hset]
  rfl

/-- **One part**: reading it takes off its arguments and adds what it says. -/
theorem parseFrom_part (hclear : part.IsClear)
    (hfile : ∀ path, part.file? = some path → r.file = none) (rest : List String) :
    parseFrom r (part.arguments ++ rest) = parseFrom (r.add part) rest := by
  cases part with
  | file path =>
    exact parseFrom_file (hfile path rfl) (hclear.file path rfl) rest
  | assignment form cell content =>
    obtain ⟨hequals, htrim⟩ := hclear.cell cell content rfl
    show parseFrom r (Setter.cell.argument form :: (cell ++ "=" ++ content) :: rest) = _
    rw [parseFrom_option, Request.set, assignment?_append hequals, htrim, String.ofList_toList]
    rfl
  | output form path => exact parseFrom_option r .output form path rest
  | config form path => exact parseFrom_option r .config form path rest

/-! ### Reading all parts -/

/-- A file can be named if none was named before, and then it is the only one. -/
theorem file_add {file : Option String}
    (h : r.file.toList ++ (part :: parts).filterMap Part.file? = file.toList) :
    (∀ path, part.file? = some path → r.file = none) ∧
      (r.add part).file.toList ++ parts.filterMap Part.file? = file.toList := by
  cases part with
  | file path =>
    have hnone : r.file = none := by
      cases hr : r.file with
      | none => rfl
      | some other =>
        -- Then there would be two, and `file` is at most one.
        have hlength := congrArg List.length h
        cases file <;> simp [hr, Part.file?] at hlength
    rw [hnone] at h
    exact ⟨fun _ _ => hnone, h⟩
  | assignment form cell content => exact ⟨fun _ hpath => (nomatch hpath), h⟩
  | output form path => exact ⟨fun _ hpath => (nomatch hpath), h⟩
  | config form path => exact ⟨fun _ hpath => (nomatch hpath), h⟩

/-- **All parts**: if they name at most one file, all that they say is added. -/
theorem parseFrom_parts {file : Option String} (hclear : ∀ part ∈ parts, part.IsClear)
    (hone : r.file.toList ++ parts.filterMap Part.file? = file.toList) :
    parseFrom r (parts.flatMap Part.arguments) = .ok (.run (parts.foldl Request.add r)) := by
  -- Part by part, with the request that the parts before have made; that it names a
  -- file only once is carried along.
  induction parts generalizing r with
  | nil => rfl
  | cons part parts ih =>
    obtain ⟨hfirst, hrest⟩ := List.forall_mem_cons.mp hclear
    obtain ⟨hnone, hone⟩ := file_add hone
    rw [List.flatMap_cons, parseFrom_part hfirst hnone, List.foldl_cons]
    exact ih hrest hone

/-- The last of several, where `a` is the first of them. -/
theorem getLast?_filterMap_cons {α β : Type} (f : α → Option β) (a : α) (as : List α)
    (former : Option β) :
    ((a :: as).filterMap f).getLast?.or former =
      (as.filterMap f).getLast?.or ((f a).or former) := by
  cases hfirst : f a with
  | none => simp [hfirst]
  | some b => cases hrest : (as.filterMap f).getLast? <;> simp [hfirst, hrest, List.getLast?_cons]

/-- What the request holds behind all parts. -/
theorem foldl_add (r : Request) (parts : List Part) :
    parts.foldl Request.add r =
      ⟨(parts.filterMap Part.file?).getLast?.or r.file,
        r.assignments ++ parts.filterMap Part.assigned?,
        (parts.filterMap Part.output?).getLast?.or r.output,
        (parts.filterMap Part.config?).getLast?.or r.config⟩ := by
  induction parts generalizing r with
  | nil => simp
  | cons part parts ih =>
    rw [List.foldl_cons, ih]
    simp only [getLast?_filterMap_cons]
    cases part <;>
      simp [Request.add, Part.file?, Part.assigned?, Part.output?, Part.config?,
        List.filterMap_cons]

/-- What a request that can be written is said by is clear. -/
theorem isClear_of_isSaidBy (hwritable : request.IsWritable) (hsaid : request.IsSaidBy parts) :
    ∀ part ∈ parts, part.IsClear := by
  intro part hpart
  constructor
  · intro path hpath
    have hmem : path ∈ parts.filterMap Part.file? := List.mem_filterMap.mpr ⟨part, hpart, hpath⟩
    rw [hsaid.file, Option.mem_toList] at hmem
    exact hwritable.file path hmem
  · intro cell content hassigned
    have hmem : (cell, content) ∈ parts.filterMap Part.assigned? :=
      List.mem_filterMap.mpr ⟨part, hpart, hassigned⟩
    rw [hsaid.assignments] at hmem
    exact hwritable.cells cell content hmem

/-- **Written and read**: the arguments that a request is written as, in whichever
    forms and order of its parts, ask for just this request.  Values of options may
    look like options, and contents may have equals signs and begin with a dash.
    Where to save and where the settings are may be said more than once, and the
    last one counts. -/
theorem parse_of_isSaidBy (hwritable : request.IsWritable) (hsaid : request.IsSaidBy parts) :
    parse (parts.flatMap Part.arguments) = .ok (.run request) := by
  have hread : parseFrom .empty (parts.flatMap Part.arguments) =
      .ok (.run (parts.foldl Request.add .empty)) :=
    parseFrom_parts (isClear_of_isSaidBy hwritable hsaid) hsaid.file
  rw [parse, hread, foldl_add, hsaid.file, hsaid.assignments, hsaid.output, hsaid.config]
  cases request with
  | mk file assignments output config => cases file <;> simp [Request.empty]

/-- Values that are spelled like options, a content that begins with an equals sign,
    and a file to save to that is said twice. -/
theorem parse_of_isSaidBy_options_as_values :
    let request : Request :=
      ⟨some "book", [("A1", "=B1"), ("B1", "-o")], some "-s", some "--help"⟩
    let parts : List Part :=
      [.output .short "lost", .assignment .long "A1" "=B1", .config .short "--help",
        .file "book", .assignment .short "B1" "-o", .output .long "-s"]
    request.IsWritable ∧ request.IsSaidBy parts ∧
      parts.flatMap Part.arguments = ["-o", "lost", "--set", "A1==B1", "-c", "--help", "book",
        "-s", "B1=-o", "--output", "-s"] ∧
      parse (parts.flatMap Part.arguments) = .ok (.run request) := by
  intro request parts
  have hwritable : request.IsWritable := by
    constructor
    · intro path hpath
      obtain rfl : "book" = path := Option.some.inj hpath
      decide
    · intro cell content hassigned
      have hcells : ∀ a ∈ request.assignments,
          '=' ∉ a.1.toList ∧ Text.trim a.1.toList = a.1.toList := by
        decide
      exact hcells (cell, content) hassigned
  have hsaid : request.IsSaidBy parts := ⟨rfl, rfl, rfl, rfl⟩
  exact ⟨hwritable, hsaid, rfl, parse_of_isSaidBy hwritable hsaid⟩

end Worksheet.CommandLine

import Stencil.Proofs.LineMap
import Stencil.Proofs.NestedFailures

/-!
# Owners of frames

A frame of a trace belongs to the routine of a template, with the functions that are defined in it, or to other code.
All that can be seen of its owner is the name of a file, and the name under which a routine is run is made of the file
of its template, else of its name, else it is the same for all.  So a report has the line of the innermost frame that is
seen under the name of its template.  That is the innermost frame of the template itself, whatever the trace, just when
no other template goes by the same name.
-/

namespace Stencil

open Effect Script Routine

/-- Whom a frame belongs to. -/
inductive Owner (templates : Array Template) where
  /-- The routine of one of the templates, or a function defined in it. -/
  | template (number : Fin templates.size)
  /-- Other code, from a file. -/
  | other (file : Text)
  deriving DecidableEq

/-- A frame of a trace, with the line that it has reached. -/
structure Frame (templates : Array Template) where
  owner : Owner templates
  line : Nat

variable {templates : Array Template}

/-- The name of the file in which an owner's frames are seen. -/
def Owner.file : Owner templates → Text
  | template number => templates[number].routine.file
  | other file => file

/-- What is seen of a frame. -/
def Frame.seen (frame : Frame templates) : TraceLine := ⟨frame.owner.file, frame.line⟩

/-- The line of the innermost frame, outermost first, whose owner passes a test. -/
def innermost? (test : Owner templates → Bool) (frames : List (Frame templates)) : Option Nat :=
  ((frames.filter fun frame => test frame.owner).map Frame.line).getLast?

/-- Whether the reports of a template have the line of the innermost frame that belongs to the template, whatever
frames there are, as long as other code is not run under its name. -/
def OwnFramesLocate (number : Fin templates.size) : Prop :=
  ∀ (frames : List (Frame templates)) (incident : Incident), incident.trace = frames.map Frame.seen →
    (∀ frame ∈ frames, frame.owner ≠ .other templates[number].routine.file) → ∀ text described : Text,
      (templates[number].faultFor incident text described).line =
        templates[number].lineOf? (innermost? (· = .template number) frames)

namespace Template

/-- What a template goes by: its file, else its name, else a word. -/
def knownAs (template : Template) : Text :=
  (firstGiven? [template.source.file, template.source.name]).getD "template"

/-- Whether the routine of a template is compiled from its source. -/
def Compiled (template : Template) : Prop :=
  ∃ marker escape, template.source.routine marker escape = .ok template.routine

variable {template other : Template}

/-- The line of a report is that of the innermost frame under the name of the template. -/
theorem line_of_seen (number : Fin templates.size) {frames : List (Frame templates)} {incident : Incident}
    (seen : incident.trace = frames.map Frame.seen) (text described : Text) :
    (templates[number].faultFor incident text described).line =
      templates[number].lineOf? (innermost? (·.file == templates[number].routine.file) frames) := by
  have own : templates[number].ownLines incident.trace =
      (frames.filter fun frame => frame.owner.file == templates[number].routine.file).map Frame.line := by
    rw [seen, ownLines, List.filter_map, List.map_map]
    rfl
  rw [faultFor, own]
  rfl

theorem Compiled.of_sheet (compiled : template.Compiled) : ∃ sheet, sheet.lines ≠ [] ∧
    ofSheet template.source.origin sheet = .ok template.routine := by
  obtain ⟨marker, escape, compiled⟩ := compiled
  unfold TemplateSource.routine at compiled
  split at compiled
  · cases compiled
  · rename_i plan accepted
    obtain ⟨lines, tree, -, -, rfl⟩ := tree_of_plan accepted
    rw [ofPlan, sheet?_plan] at compiled
    exact ⟨_, List.cons_ne_nil _ _, compiled⟩

/-- A routine has a first line, for which a template line is noted. -/
theorem Compiled.first_line (compiled : template.Compiled) : ∃ origin, template.lineOf? (some 1) = some origin := by
  obtain ⟨sheet, occupied, compiled⟩ := compiled.of_sheet
  obtain ⟨first, lines, same⟩ := List.exists_cons_of_ne_nil occupied
  have origins : template.routine.origins = sheet.origins := (ofSheet_origins compiled).1
  refine ⟨first.origin, ?_⟩
  rw [lineOf?, Option.bind_some, originOf, origins, Sheet.origins, same]
  rfl

theorem file_of_ofSheet {origin : Origin} {sheet : Sheet} {routine : Routine}
    (compiled : ofSheet origin sheet = .ok routine) : routine.file = fileFor origin := by
  obtain ⟨_, -, file, -⟩ := ofSheet_eq_ok compiled
  exact file

/-- The names under which two routines are run tell what their templates go by. -/
theorem Compiled.file_eq_iff (compiled : template.Compiled) (compiled' : other.Compiled) :
    template.routine.file = other.routine.file ↔ template.knownAs = other.knownAs := by
  obtain ⟨sheet, -, compiled⟩ := compiled.of_sheet
  obtain ⟨sheet', -, compiled'⟩ := compiled'.of_sheet
  rw [file_of_ofSheet compiled, file_of_ofSheet compiled', fileFor, fileFor, List.append_left_inj,
    List.append_right_inj]
  rfl

end Template

/-- When no other frames are seen under the name of a template, the innermost one that is seen is its own. -/
theorem innermost?_own {number : Fin templates.size} {frames : List (Frame templates)}
    (alone : ∀ frame ∈ frames, frame.owner.file = templates[number].routine.file → frame.owner = .template number) :
    innermost? (·.file == templates[number].routine.file) frames = innermost? (· = .template number) frames := by
  have same : ∀ frame ∈ frames, (frame.owner.file == templates[number].routine.file) =
      decide (frame.owner = .template number) := by
    intro frame member
    rw [Bool.eq_iff_iff, beq_iff_eq, decide_eq_true_iff]
    refine ⟨alone frame member, fun own => ?_⟩
    rw [own]
    rfl
  rw [innermost?, innermost?, List.filter_congr same]

/-- The reports of a template have the line of its own innermost frame, whatever frames there are, just when no other
template goes by what it goes by. -/
theorem ownFramesLocate_iff (compiled : ∀ number : Fin templates.size, templates[number].Compiled)
    (number : Fin templates.size) : OwnFramesLocate number ↔
      ∀ other : Fin templates.size, templates[other].knownAs = templates[number].knownAs → other = number := by
  constructor
  · intro locate other known
    by_contra apart
    -- a trace with nothing but a frame of the other template is taken for one of this template
    have file := ((compiled other).file_eq_iff (compiled number)).mpr known
    let frames : List (Frame templates) := [⟨.template other, 1⟩]
    let incident : Incident := ⟨.value, [], [], none, frames.map Frame.seen, none⟩
    have line := locate frames incident rfl (by simp [frames]) [] []
    have noted : incident.trace = frames.map Frame.seen := rfl
    rw [Template.line_of_seen number noted] at line
    have seen : innermost? (·.file == templates[number].routine.file) frames = some 1 := by
      simpa [innermost?, frames, Owner.file] using file
    have own : innermost? (· = .template number) frames = none := by
      simp [innermost?, frames, apart]
    obtain ⟨origin, first⟩ := (compiled number).first_line
    rw [seen, own, first] at line
    cases line
  · intro apart frames incident seen foreign text described
    rw [Template.line_of_seen number seen, innermost?_own]
    intro frame member file
    cases owner : frame.owner with
    | template other =>
        rw [owner] at file
        rw [apart other (((compiled other).file_eq_iff (compiled number)).mp file)]
    | other named =>
        rw [owner] at file
        exact absurd (owner.trans (congrArg Owner.other file)) (foreign frame member)

section Main

variable {call : Caller} {context : Value} {world after : World} {error : Nat} {incident : Incident} {text : Text}
  {arguments : List Text}

/-- A template that is rendered in a world of compiled templates reports an error that leaves its routine with the line
of the innermost frame, among those that the error passed, that is seen under the name of the template.  That is the
line of the innermost frame of the template itself if no other frame is seen under that name; and it always is, just
when no other template goes by what this one goes by, which is its file, else its name, else a word. -/
theorem report_has_innermost_line (compiled : ∀ number : Fin world.templates.size, world.templates[number].Compiled)
    {number : Fin world.templates.size}
    (raised : call (.object world.templates[number].function) [context] world = .failed error after)
    (found : after.incident? error = some incident) (foreign : incident.kind.goesOn = false)
    (described : Describes call error incident after text arguments)
    {frames : List (Frame world.templates)} (seen : incident.trace = frames.map Frame.seen) :
    (∃ error' final fault, render call number context world = .failed error' final ∧
      final.incident? error' = some (reporting fault incident.kind []) ∧
      fault.line = world.templates[number].lineOf?
        (innermost? (·.file == world.templates[number].routine.file) frames) ∧
      ((∀ frame ∈ frames, frame.owner.file = world.templates[number].routine.file →
          frame.owner = .template number) →
        fault.line = world.templates[number].lineOf? (innermost? (· = .template number) frames))) ∧
    (OwnFramesLocate number ↔ ∀ other : Fin world.templates.size,
      world.templates[other].knownAs = world.templates[number].knownAs → other = number) := by
  have listed : world.templates[number.val]? = some world.templates[number] := Array.getElem?_eq_getElem number.isLt
  obtain ⟨error', final, failed, reported⟩ := render_reports listed raised found foreign described
  have line := Template.line_of_seen number seen text (describedBy incident.kind text arguments)
  refine ⟨⟨error', final, _, failed, reported, line, fun alone => ?_⟩, ownFramesLocate_iff compiled number⟩
  rw [line, innermost?_own alone]

end Main

/-- An instance whose child cannot be read is reported at the line of the fragment, and always will be: there is no
other template. -/
theorem failing_child_located : ∃ routine, nodeSource.routine Environment.standardMarker true = .ok routine ∧
    (∃ error after fault, render (callWithin 4 3) 0 (.object 0) (installed nodeSource true routine 0 nodesWorld) =
        .failed error after ∧
      after.incident? error = some (reporting fault .value []) ∧ fault.line = some 2) ∧
    ∀ number : Fin (installed nodeSource true routine 0 nodesWorld).templates.size, OwnFramesLocate number := by
  obtain ⟨routine, accepted, comes⟩ := node_comes_to_child
  refine ⟨routine, accepted, ?_⟩
  have only : ∀ number : Fin (installed nodeSource true routine 0 nodesWorld).templates.size, number.val = 0 :=
    fun number => Nat.lt_one_iff.mp number.isLt
  have compiled : ∀ number : Fin (installed nodeSource true routine 0 nodesWorld).templates.size,
      (installed nodeSource true routine 0 nodesWorld).templates[number].Compiled := by
    rintro ⟨number, inside⟩
    obtain rfl := only ⟨number, inside⟩
    exact ⟨_, _, accepted⟩
  obtain ⟨first, origin, nested⟩ := (World.Chain.failing (comes 0 _ rfl).1 (comes 0 _ rfl).2).nested rfl describes_boom
    (.refl _) 0
  generalize stack : ([] : List EnclosingFrame) = around at nested
  cases nested with
  | enclosing => simp at stack
  | innermost listed raised found foreign described =>
      let number : Fin (installed nodeSource true routine 0 nodesWorld).templates.size := ⟨0, Nat.one_pos⟩
      let frames : List (Frame (installed nodeSource true routine 0 nodesWorld).templates) :=
        [⟨.template number, first⟩]
      have raised : callWithin 4 3
          (.object (installed nodeSource true routine 0 nodesWorld).templates[number].function) [.object 0]
          (installed nodeSource true routine 0 nodesWorld) = _ := raised
      have seen : [⟨routine.file, first⟩] = frames.map Frame.seen := rfl
      obtain ⟨⟨error, final, fault, failed, reported, -, line⟩, locates⟩ :=
        report_has_innermost_line compiled raised found foreign described seen
      refine ⟨⟨error, final, fault, failed, reported, ?_⟩, fun number' => ?_⟩
      · rw [line (by simp [frames])]
        exact origin
      · obtain rfl : number' = number := Fin.ext (only number')
        exact locates.mpr fun other _ => Fin.ext (only other)

/-! ## Functions that are handed on -/

/-- A template defines a function and hands it on; another one, with the first one's name or another one, renders it
and calls the function on its last line, where it fails. -/
def handingRequests (name : Option Text) : List Request :=
  [.define "a" (.template none "%% def f() \x7b\n%% len(1)\n%% \x7d\n%% self.box.append(f)\n" none none ⟨none, []⟩),
    .define "b" (.template none "%% self.a.render(self)\n%% pass\n%% pass\n%% self.box[0]()\n" name none ⟨none, []⟩),
    .ask (.render "b" (.context [("a", .template "a"), ("box", .list [])]))]

/-- The lines in the reports among the answers to requests. -/
def reportedLines (requests : List Request) : List (Option Int) :=
  (failuresAmong ((Session.start [] "site" [] false).run requests)).map fun failure =>
    match failure.report with
    | some (.rendering fault) => fault.line
    | _ => none

/-- The report has the line of the call when the template has a name, and else another line, that of the frame of the
function in the other template. -/
theorem handed_function_misplaced : reportedLines (handingRequests (some "b.txt")) = [some 4] ∧
    reportedLines (handingRequests none) = [some 2] := by
  decide +kernel

end Stencil

import Stencil.Proofs.RecodedScripts
import Stencil.Proofs.SourcePieces

/-!
# Templates that differ in whether they escape values

A source is compiled twice, with values escaped and without, in the same world, and the two templates are rendered with
the same context.  If a rendering that checks every conversion comes to an end, both render what it renders, or fail as it
fails.
-/

namespace Stencil

open Effect Script Routine Manners

/-! ## What can be told -/

/-- What can be told of how an action ended: what its value is, or what the error is that it ended with. -/
inductive Told where
  | shown (sketch : Sketch)
  | failed (kind : ErrorKind) (arguments : List Sketch) (report : Option Report) (trace : List TraceLine)
    (cause : Option ErrorKind)
  /-- Nothing is known of the error. -/
  | unexplained
  | unfinished

/-- What can be told of the ending of an action that gives a value. -/
def Outcome.told : Outcome Value → Told
  | .done value world => .shown (Sketch.ofValue world World.shownDepth value)
  | .failed error world => match world.incident? error with
    | some incident => .failed incident.kind (incident.arguments.map (Sketch.ofValue world World.shownDepth)) incident.report
      incident.trace incident.cause
    | none => .unexplained
  | .exhausted => .unfinished

namespace Terms

variable {terms : Terms} {bond : Bond} {world world' : World}

theorem ofValues_same (matched : terms.Matched bond world world') (steps : Nat) {values values' : List Value}
    (each : terms.Sames bond values values') :
    values'.map (Sketch.ofValue world' steps) = values.map (Sketch.ofValue world steps) := by
  induction each with
  | nil => rfl
  | cons same _ ih => rw [List.map_cons, List.map_cons, ofValue_same matched steps same, ih]

/-- Of the same error the same can be told. -/
theorem told_failed (matched : terms.Matched bond world world') {error error' : Nat} (pair : bond.objects error error') :
    (Outcome.failed error' world').told = (Outcome.failed error world).told := by
  have raised := incident?_same matched pair
  rw [Outcome.told, Outcome.told]
  generalize world.incident? error = found, world'.incident? error' = found' at raised ⊢
  cases raised with
  | none => rfl
  | some same =>
      dsimp only
      rw [same.kind, ofValues_same matched World.shownDepth same.arguments, same.report, same.trace, same.cause]

end Terms

namespace Manners

variable {manners : Manners} {bond : Bond} {world world' : World}

/-- Of actions that end alike the same can be told, unless the one gives up. -/
theorem told_ends {outcome outcome' : Outcome Value}
    (ends : manners.guardedly.Ends bond manners.Shows world world' outcome outcome') (finishes : outcome ≠ .exhausted) :
    outcome'.told = outcome.told := by
  cases ends with
  | done moves shows =>
      rcases shows with ⟨_, _, content, rfl, rfl⟩ | same
      · rfl
      · exact congrArg Told.shown (Terms.ofValue_same moves.matched _ same)
  | failed moves pair => exact Terms.told_failed moves.matched pair
  | exhausted => rfl
  | unfinished => exact absurd rfl finishes

end Manners

/-! ## Worlds with templates of one source -/

/-- A bond that also says that functions, and the scopes that they were made in, stay as they are. -/
def Bond.withHosts (bond : Bond) (function function' home home' : Nat) (strict : bond.gathering = none)
    (free : ∀ {a a' : Nat}, bond.objects a a' → a ≠ function ∧ a' ≠ function')
    (apart : ∀ {inside : Bool} {a a' : Nat}, bond.frames inside a a' → a ≠ home ∧ a' ≠ home') : Bond :=
  { bond with
    kept := fun a => a = function ∨ bond.kept a
    kept' := fun a => a = function' ∨ bond.kept' a
    still := fun a => a = home ∨ bond.still a
    still' := fun a => a = home' ∨ bond.still' a
    objects_free := fun pair => ⟨not_or_intro (free pair).1 (bond.objects_free pair).1,
      not_or_intro (free pair).2 (bond.objects_free pair).2⟩
    frames_free := fun pair => ⟨not_or_intro (apart pair).1 (bond.frames_free pair).1,
      not_or_intro (apart pair).2 (bond.frames_free pair).2⟩
    bases_still := fun pair => ⟨.inr (bond.bases_still pair).1, .inr (bond.bases_still pair).2⟩
    gathering_free := fun known => absurd (strict.symm.trans known).symm (Option.some_ne_none _) }

/-- What is there of a template stays where its function and the scope around that stay. -/
theorem Routine.Hosted.stays {converter : Value} {template : Template} {number globals home : Nat} {world after : World}
    {kept still : Nat → Prop} (hosted : Hosted converter template number globals home world)
    (stays : world.Stays kept still after) (own : kept template.function) (around : still home) :
    Hosted converter template number globals home after where
  listed := stays.templates hosted.listed
  function := by
    obtain ⟨attributes, there⟩ := hosted.function
    exact ⟨attributes, (stays.objects own).trans there⟩
  home := (stays.scopes around).trans hosted.home

namespace Manners

variable {manners : Manners} {bond : Bond} {world world' after after' : World} {template template' : Template}
  {converter converter' : Value} {number number' globals home home' : Nat}

/-- Worlds stay alike when new templates are put into them whose functions no value leads to. -/
theorem matched_hosts (matched : manners.strictly.Matched bond world world') (grows : world.Grows after)
    (grows' : world'.Grows after') (same : after.identities = world.identities) (same' : after'.identities = world'.identities)
    (hosted : Hosted converter template number globals home after)
    (hosted' : Hosted converter' template' number' globals home' after')
    (new : template.function = world.objects.size ∧ template'.function = world'.objects.size)
    (around : home = world.scopes.size ∧ home' = world'.scopes.size) :
    ∃ later, bond ≤ later ∧ manners.strictly.Matched later after after' ∧
      (later.kept template.function ∧ later.kept' template'.function) ∧ later.still home ∧ later.still' home' := by
  obtain ⟨attributes, function⟩ := hosted.function
  obtain ⟨attributes', function'⟩ := hosted'.function
  obtain ⟨free, apart, -⟩ := matched.beyond
  let later := bond.withHosts template.function template'.function home home' (gathering_of_strict matched)
    (fun pair => by rw [new.1, new.2]; exact free pair) (fun pair => by rw [around.1, around.2]; exact apart pair)
  have grown : bond ≤ later := ⟨id, id, id, id, id, id, .inr, .inr, .inr, .inr, id, id⟩
  have moves : manners.strictly.Moves bond later world world' after after' := by
    refine matched.moves grown (grows.stays matched.kept matched.still) (grows'.stays matched.kept' matched.still') ?_ ?_
      ?_ ?_ ?_ ?_ (fun pair => ?_) (fun pair => ?_) .inl id fun known => ?_
    · rw [grows.handled, grows'.handled]
      exact matched.handled
    · intro identity identity' pair
      rw [same, same']
      exact matched.identities pair
    · rintro address (rfl | old)
      · exact (Array.getElem?_eq_some_iff.mp function).1
      · exact grows.object_lt (matched.kept old)
    · rintro address (rfl | old)
      · exact (Array.getElem?_eq_some_iff.mp function').1
      · exact grows'.object_lt (matched.kept' old)
    · rintro scope (rfl | old)
      · exact (Array.getElem?_eq_some_iff.mp hosted.home).1
      · exact grows.scope_lt (matched.still old)
    · rintro scope (rfl | old)
      · exact (Array.getElem?_eq_some_iff.mp hosted'.home).1
      · exact grows'.scope_lt (matched.still' old)
    · obtain ⟨object, object', found, found', alike⟩ := matched.objects pair
      exact ⟨object, object', grows.objects found, grows'.objects found', alike.mono grown⟩
    · obtain ⟨scope, scope', found, found', alike⟩ := matched.scopes pair
      exact ⟨scope, scope', grows.scopes found, grows'.scopes found', alike.mono grown⟩
    · exact absurd ((gathering_of_strict matched).symm.trans known).symm (Option.some_ne_none _)
  exact ⟨later, grown, moves.matched, ⟨.inl rfl, .inl rfl⟩, .inl rfl, .inl rfl⟩

end Manners

/-! ## Rendering with a context -/

/-- Build a context and render a template with it. -/
def Effect.renderSketch (call : Caller) (registry : Registry) (number : Nat) (sketch : Sketch) : Effect Value := do
  let context ← sketch.build registry
  render call number context

/-- This is how a session renders a template that it has named. -/
theorem Session.fulfil_render {registry : Registry} {template : Text} {number : Nat}
    (named : registry.templates.lookup template = some number) (context : Sketch) (world : World) :
    fulfil registry (.render template context) world =
      (do return .output (← sketchOf (← renderSketch callValue registry number context)) : Effect Answer) world := by
  rw [fulfil, named, renderSketch, Effect.bind_bind]

/-- The world where the routine of a template has a checker in the place of the converter that escapes. -/
def World.checking (number : Nat) (world : World) : World :=
  match world.templates[number]? with
  | none => world
  | some template => match world.objects[template.function]? with
    | some (.function function _) =>
      { world with scopes := world.scopes.modify function.outer fun scope =>
          { scope with values := putEntry escapeParameter checker scope.values } }
    | _ => world

namespace Manners

variable {manners : Manners} {bond : Bond} {world world' : World} {template template' : Template}
  {number number' globals home home' : Nat} {escape : Bool} {registry : Registry}

/-- What is told of a rendering that checks conversions is told of a rendering that does not, whether it escapes values or
not. -/
theorem told_renderSketch (matched : manners.strictly.Matched bond world world') (lists : bond.Lists registry)
    (hosted : Hosted checker template number globals home world)
    (hosted' : Hosted (.builtin .escape) template' number' globals home' world')
    (kept : bond.kept template.function ∧ bond.kept' template'.function) (still : bond.still home ∧ bond.still' home')
    (source : template'.source = template.source) (traces : template'.routine.Traces template.routine)
    (body : RecodedBody (manners.reticence true) escape template.routine.body template'.routine.body) (sketch : Sketch)
    (finishes : renderSketch (checkedWithin loopBound callDepth) registry number sketch world ≠ .exhausted) :
    (renderSketch callValue registry number' sketch world').told =
      (renderSketch (checkedWithin loopBound callDepth) registry number sketch world).told := by
  have builds := (Terms.twin_sketched lists sketch : manners.strictly.Twin bond _ _ _) bond le_rfl world world' matched
  unfold renderSketch at finishes ⊢
  rw [Effect.bind_apply] at finishes
  rw [Effect.bind_apply, Effect.bind_apply]
  generalize sketch.build registry world = built, sketch.build registry world' = built' at builds finishes ⊢
  cases builds with
  | done moves same =>
      have grown := moves.grown
      exact told_ends (ends_render moves.matched (hosted.stays moves.first kept.1 still.1)
        (hosted'.stays moves.second kept.2 still.2) ⟨grown.still still.1, grown.still' still.2⟩ source traces body same
        le_rfl) finishes
  | failed moves pair => exact Terms.told_failed moves.matched pair
  | exhausted => exact absurd rfl finishes
  | unfinished strict => exact strict.elim

end Manners

/-! ## Routines of one source -/

namespace Routine

/-- Lines that are logical lines of their own are read as they are, if their script is accepted. -/
theorem readScript_lines {lines : List SuiteLine} {found : List LogicalLine} {program : Option (List Stmt)}
    (read : ReadAs 1 (lines.map SuiteLine.script) found)
    (accepted : readScript ((lines.map SuiteLine.script).flatMap ScriptLine.written) = .ok program) :
    program = readLines found := by
  rw [readScript, reading_of_lines read] at accepted
  dsimp only at accepted
  split at accepted
  · cases accepted
  · cases accepted
  · split at accepted
    · rename_i unread
      split at accepted
      · cases accepted
      · split at accepted
        · cases accepted
        · exact (Except.ok.inj accepted).symm.trans unread.symm
    · rename_i statements read
      split at accepted
      · cases accepted
      · exact (Except.ok.inj accepted).symm.trans read.symm

/-- The script of a piece of an accepted source stands for itself on a line. -/
theorem solid_script {marker : Text} {source : TemplateSource} {tree : Tree} (matched : source.tree marker = .ok tree)
    (plain : ∀ instruction ∈ (tree.plan true).instructions, ∀ text, instruction.script? = some text → Plainspoken text) :
    ∀ instruction ∈ (tree.plan true).instructions, ∀ text, instruction.script? = some text → Solid text := by
  have pieces : piecesAmong tree.body = (tree.plan true).instructions.filterMap Instruction.piece? :=
    (pieces_of_nodes true tree.body).symm
  have sound : ∀ piece ∈ piecesAmong tree.body, Sound piece := by
    refine sound_of_source matched fun piece member returns => ?_
    rw [pieces] at member
    obtain ⟨instruction, listed, found⟩ := List.mem_filterMap.mp member
    have plain := plain instruction listed
    cases instruction with
    | literal | finish => cases found
    | insert | exec =>
        cases found
        exact (plain _ rfl).1 returns
    | begin =>
        cases found
        exact (plain _ rfl).1 (List.mem_append_left _ returns)
  intro instruction listed text script
  have own {piece : Int × Text} (found : instruction.piece? = some piece) : Solid piece.2 :=
    (sound piece (pieces ▸ List.mem_filterMap.mpr ⟨instruction, listed, found⟩)).2
  cases instruction with
  | literal | finish => cases script
  | insert | exec =>
      cases script
      exact own rfl
  | begin =>
      cases script
      exact solid_head (own rfl)

/-- Routines of one source differ in how they convert values only, when every piece of script in it is plainspoken. -/
theorem recodedBody_of_source {reticence : Reticence} (hidden : ∀ name, reticence.hidden name → name ∈ reserved)
    (frank : ∀ name, ¬ reticence.unread name) {marker : Text} {escape : Bool} {source : TemplateSource} {tree : Tree}
    {routine routine' : Routine} (matched : source.tree marker = .ok tree)
    (plain : ∀ instruction ∈ (tree.plan true).instructions, ∀ text, instruction.script? = some text → Plainspoken text)
    (accepted : source.routine marker true = .ok routine) (accepted' : source.routine marker escape = .ok routine') :
    RecodedBody reticence escape routine.body routine'.body ∧ routine'.Traces routine := by
  obtain ⟨file, origins, program, script, body⟩ := routine_of_tree matched accepted
  obtain ⟨file', origins', program', script', body'⟩ := routine_of_tree matched accepted'
  have last : finalLine (tree.plan escape) = finalLine (tree.plan true) := by
    cases escape with
    | true => rfl
    | false => exact finalLine_deciding tree
  rw [last] at origins' script'
  have counterparts := counterparts_suite escape 2 tree.body
  have solid := solid_script matched plain
  have fit : ∀ piece ∈ pieces (nodeInstructions true tree.body), ∀ text, piece.script? = some text → Fit reticence text := by
    intro piece member text script
    have listed := List.mem_of_mem_filter member
    exact (plain piece listed text script).fit (solid piece listed text script) hidden
  have seen : ∀ name ∈ [valueName, "pass".toList], ¬ reticence.hidden name := fun name inside concealed =>
    (by decide : ∀ name ∈ [valueName, "pass".toList], name ∉ reserved) name inside (hidden name concealed)
  obtain ⟨found, found', read, read', recoded⟩ := counterparts.recodedBody fit seen frank (finalLine (tree.plan true))
  rw [body, body', readScript_lines read script, readScript_lines read' script']
  refine ⟨recoded, file'.trans file.symm, ?_⟩
  have differ : (suite escape 2 tree.body).map SuiteLine.origin = (suite true 2 tree.body).map SuiteLine.origin :=
    counterparts.origins
  rw [origins, origins', List.map_append, List.map_append, List.map_append, List.map_append, differ]

/-! ## Compiled templates -/

variable {environment : Environment} {source : TemplateSource} {escape : Bool} {globals number : Nat} {world made : World}

/-- A template is made only of a source that is accepted. -/
theorem compile_done (done : compile environment source (some escape) globals world = .done number made) :
    ∃ routine, source.routine environment.marker escape = .ok routine ∧ number = world.templates.size ∧
      made = installed source escape routine globals world := by
  cases accepted : source.routine environment.marker escape with
  | error error =>
      rw [compile_refused accepted] at done
      cases error <;> cases done
  | ok routine =>
      rw [compile_installed accepted] at done
      cases done
      exact ⟨routine, rfl, rfl, rfl⟩

theorem hosted_installed (source : TemplateSource) (escape : Bool) (routine : Routine) (globals : Nat) (world : World) :
    Hosted (.builtin .escape) ⟨source, escape, routine, world.objects.size⟩ world.templates.size globals world.scopes.size
      (installed source escape routine globals world) where
  listed := Array.getElem?_push_size
  function := ⟨[], Array.getElem?_push_size⟩
  home := Array.getElem?_push_size

/-- A new template with a checker. -/
theorem checking_installed (source : TemplateSource) (escape : Bool) (routine : Routine) (globals : Nat) (world : World) :
    (installed source escape routine globals world).checking world.templates.size =
      { installed source escape routine globals world with
        scopes := world.scopes.push (homeOf checker world.objects.size) } := by
  have hosted := hosted_installed source escape routine globals world
  obtain ⟨attributes, function⟩ := hosted.function
  rw [World.checking, hosted.listed]
  dsimp only
  rw [function]
  dsimp only
  rw [installed, modify_push_self]
  rfl

theorem hosted_checking (source : TemplateSource) (escape : Bool) (routine : Routine) (globals : Nat) (world : World) :
    Hosted checker ⟨source, escape, routine, world.objects.size⟩ world.templates.size globals world.scopes.size
      ((installed source escape routine globals world).checking world.templates.size) := by
  rw [checking_installed]
  exact ⟨Array.getElem?_push_size, ⟨[], Array.getElem?_push_size⟩, Array.getElem?_push_size⟩

theorem grows_checking (source : TemplateSource) (escape : Bool) (routine : Routine) (globals : Nat) (world : World) :
    world.Grows ((installed source escape routine globals world).checking world.templates.size) := by
  rw [checking_installed]
  exact ⟨fun there => World.Grows.getElem?_push_of there _, fun there => World.Grows.getElem?_push_of there _,
    fun there => World.Grows.getElem?_push_of there _, rfl⟩

end Routine

/-! ## Sessions -/

/-- Nothing is kept to itself but what a routine keeps. -/
def openly : Manners where
  hidden _ := False
  unread _ := False
  html_read := id
  str_read := id
  libraries _ := True
  bindings _ := True
  discreet _ _ _ _ mention _ := by cases mention <;> exact id

namespace Session

variable {home module : Text} {files : List (Text × List UInt8)} {colours : Bool}

/-- The world of a session is alike to itself, whatever was asked for. -/
theorem tidy_openly (requests : List Request) :
    ∃ bond, openly.strictly.TidySession bond ((start home module files colours).after requests) := by
  have admits (state : Session) : openly.strictly.Admits state.world :=
    ⟨trivial, fun _ _ mention _ => by cases mention <;> exact id, fun _ => trivial⟩
  obtain ⟨bond, -, whole⟩ := (Terms.tidy_start id home module files colours trivial).onward fun state _ => admits state
  exact ⟨bond, whole⟩

end Session
end Stencil

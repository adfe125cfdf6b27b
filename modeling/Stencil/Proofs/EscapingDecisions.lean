import Stencil.Proofs.FreshDisplays
import Stencil.Proofs.RecodedTemplates

/-!
# What escaping changes

Whether a template escapes values decides which converter its routine calls, and nothing else.  So where a conversion makes
no difference, the decision makes none: a template renders the same text, or fails in the same way at the same line.
-/

namespace Stencil

open Effect Script Routine Manners

/-! ## Plans and sheets -/

/-- Every expression of a plan is inserted as the plan says. -/
theorem escape_of_insert {escape decided : Bool} {tree : Tree} {code : Text} {line : Int}
    (listed : .insert code decided line ∈ (tree.plan escape).instructions) : decided = escape := by
  rw [← deciding_plan escape escape tree] at listed
  obtain ⟨instruction, -, same⟩ := List.mem_map.mp listed
  cases instruction with
  | insert => exact (Instruction.insert.inj same).2.1.symm
  | literal => cases same
  | begin => cases same
  | exec => cases same
  | finish => cases same

/-- The text of a routine and its line map are those of the sheet that is written for the plan. -/
theorem routine_of_sheet {marker : Text} {escape : Bool} {source : TemplateSource} {plan : Plan} {routine : Routine}
    {sheet : Sheet} (planned : source.plan marker escape = .ok plan) (written : sheet? plan = some sheet)
    (accepted : source.routine marker escape = .ok routine) :
    routine.text = sheet.toText ∧ routine.origins = sheet.origins := by
  rw [TemplateSource.routine, planned] at accepted
  dsimp only at accepted
  rw [ofPlan, written] at accepted
  obtain ⟨_, -, -, origins, text, -⟩ := ofSheet_eq_ok accepted
  exact ⟨text, origins⟩

/-- What is made of a source with values escaped, and with values made texts of, where the two differ in the converters
only. -/
structure ConvertApart (marker : Text) (source : TemplateSource) (plan plan' : Plan) (sheet sheet' : Sheet) : Prop where
  planned : source.plan marker true = .ok plan
  planned' : source.plan marker false = .ok plan'
  instructions : plan'.instructions = plan.instructions.map (Instruction.deciding false)
  escaping : ∀ code escape line, .insert code escape line ∈ plan.instructions → escape = true
  verbatim : ∀ code escape line, .insert code escape line ∈ plan'.instructions → escape = false
  written : sheet? plan = some sheet
  written' : sheet? plan' = some sheet'
  routine : ∀ routine, source.routine marker true = .ok routine →
    routine.text = sheet.toText ∧ routine.origins = sheet.origins
  routine' : ∀ routine, source.routine marker false = .ok routine →
    routine.text = sheet'.toText ∧ routine.origins = sheet'.origins
  count : sheet'.lines.length = sheet.lines.length
  indented : sheet'.lines.map (fun line => line.text.takeWhile (· == ' ')) =
    sheet.lines.map fun line => line.text.takeWhile (· == ' ')
  origins : sheet'.origins = sheet.origins
  lines : Differ (plan.instructions.filterMap Instruction.inserted?) sheet.lines sheet'.lines

/-- Plans, sheets and routines of one source differ in the converters only. -/
theorem convertApart_of_tree {marker : Text} {source : TemplateSource} {tree : Tree}
    (matched : source.tree marker = .ok tree) :
    ∃ sheet sheet', ConvertApart marker source (tree.plan true) (tree.plan false) sheet sheet' := by
  obtain ⟨sheet, sheet', written, written', differ⟩ := differ_sheets tree
  have planned (escape : Bool) : source.plan marker escape = .ok (tree.plan escape) := by
    rw [TemplateSource.plan, matched]
    rfl
  have count : sheet'.lines.length = sheet.lines.length := by
    have lengths := congrArg List.length differ.origins
    rwa [List.length_map, List.length_map] at lengths
  exact ⟨sheet, sheet', {
    planned := planned true
    planned' := planned false
    instructions := (deciding_plan false true tree).symm
    escaping := fun _ _ _ => escape_of_insert
    verbatim := fun _ _ _ => escape_of_insert
    written := written
    written' := written'
    routine := fun _ => routine_of_sheet (planned true) written
    routine' := fun _ => routine_of_sheet (planned false) written'
    count := count
    indented := differ.indented
    origins := differ.origins
    lines := differ }⟩

/-! ## Renderings -/

/-- An action that does not give up can be told something of. -/
theorem Outcome.told_ne_unfinished {outcome : Outcome Value} (finishes : outcome ≠ .exhausted) :
    outcome.told ≠ .unfinished := by
  intro same
  cases outcome with
  | done => cases same
  | failed error world =>
      rw [Outcome.told] at same
      cases known : world.incident? error with
      | none =>
          rw [known] at same
          cases same
      | some incident =>
          rw [known] at same
          cases same
  | exhausted => exact finishes rfl

theorem Outcome.finishes_of_isDone {outcome : Outcome Value} (done : outcome.isDone) : outcome ≠ .exhausted := by
  rintro rfl
  cases done

section Renderings

variable {environment : Environment} {source : TemplateSource} {tree : Tree} {escape : Bool} {bond : Bond}
  {registry : Registry} {number number' : Nat} {world made made' : World}

/-- A template renders, whether it escapes values or not, as it does with its conversions checked. -/
theorem told_as_checked (matched : openly.strictly.Matched bond world world) (lists : bond.Lists registry)
    (accepted : source.tree environment.marker = .ok tree)
    (plain : ∀ instruction ∈ (tree.plan true).instructions, ∀ text, instruction.script? = some text → Plainspoken text)
    {globals : Nat} (checked : compile environment source (some true) globals world = .done number made)
    (done : compile environment source (some escape) globals world = .done number' made') (sketch : Sketch)
    (finishes : renderSketch (checkedWithin loopBound callDepth) registry number sketch (made.checking number) ≠ .exhausted) :
    (renderSketch callValue registry number' sketch made').told =
      (renderSketch (checkedWithin loopBound callDepth) registry number sketch (made.checking number)).told := by
  obtain ⟨routine, read, rfl, rfl⟩ := compile_done checked
  obtain ⟨routine', read', rfl, rfl⟩ := compile_done done
  have hosted := hosted_checking source true routine globals world
  have hosted' := hosted_installed source escape routine' globals world
  obtain ⟨later, grown, alike, kept, still⟩ := matched_hosts matched (grows_checking source true routine globals world)
    (.installed world source escape routine' globals) (by rw [checking_installed]; rfl) rfl hosted hosted' ⟨rfl, rfl⟩ ⟨rfl, rfl⟩
  obtain ⟨body, traces⟩ : RecodedBody (openly.reticence true) escape routine.body routine'.body ∧ routine'.Traces routine :=
    recodedBody_of_source (fun _ own => own) (fun _ => id) accepted plain read read'
  exact told_renderSketch alike (lists.mono grown) hosted hosted' kept still rfl traces body sketch finishes

end Renderings

/-- Templates that are made with the same options in one session, whether they escape values or not, are compiled in one
world, which is alike to itself. -/
theorem Session.compiled_together {session : Session} {bond : Bond} (whole : openly.strictly.TidySession bond session)
    {environment : Environment} {source : TemplateSource} {globals : List (Text × Sketch)} {decision : Option Bool}
    {number : Nat} {made : World}
    (done : compileWith session.registry ⟨decision, globals⟩ environment source session.world = .done number made) :
    ∃ later namespaceNumber world, bond ≤ later ∧ openly.strictly.Matched later world world ∧ ∀ decision,
      compileWith session.registry ⟨decision, globals⟩ environment source session.world =
        compile environment source decision namespaceNumber world := by
  obtain ⟨entries, between, built, -⟩ := of_bind_done done
  have builds := (Terms.twin_buildNamed whole.lists globals : openly.strictly.Twin bond _ _ _).tidies whole.tidy
  rw [built] at builds
  cases builds with
  | @done later _ _ upkeep each =>
      have opened := upkeep.tidy.openNamespace each
      exact ⟨later, between.namespaces.size, _, upkeep.grown, opened.tidy.matched, fun decision => bind_done built⟩

/-- Escaping changes nothing but the converters.  The plans and the routines of a source are the same otherwise; and where
every piece of script is one complete line that speaks of none of a routine's own names, templates that are made in any
session render the same, or fail in the same way at the same line, if the rendering with its conversions checked comes to
an end. -/
theorem escaping_changes_converters {environment : Environment} {source : TemplateSource} {tree : Tree}
    (accepted : source.tree environment.marker = .ok tree) :
    (∃ sheet sheet', ConvertApart environment.marker source (tree.plan true) (tree.plan false) sheet sheet') ∧
    ∀ (home module : Text) (files : List (Text × List UInt8)) (colours : Bool) (requests : List Request)
      (globals : List (Text × Sketch)) (context : Sketch) (number number' : Nat) (made made' : World),
      let session := (Session.start home module files colours).after requests
      let compile (escape : Bool) := Session.compileWith session.registry ⟨some escape, globals⟩ environment source session.world
      let render (call : Caller) (number : Nat) := renderSketch call session.registry number context
      (∀ instruction ∈ (tree.plan true).instructions, ∀ text, instruction.script? = some text → Plainspoken text) →
      compile true = .done number made → compile false = .done number' made' →
      render (checkedWithin loopBound callDepth) number (made.checking number) ≠ .exhausted →
        (render callValue number made).told ≠ .unfinished ∧
          (render callValue number' made').told = (render callValue number made).told := by
  refine ⟨convertApart_of_tree accepted, ?_⟩
  intro home module files colours requests globals context number number' made made' session compile render plain done done'
    finishes
  obtain ⟨bond, whole⟩ : ∃ bond, openly.strictly.TidySession bond session := Session.tidy_openly requests
  obtain ⟨later, namespaceNumber, world, grown, matched, same⟩ := Session.compiled_together whole done
  have lists := whole.lists.mono grown
  have escaped := (same (some true)).symm.trans done
  have verbatim := (same (some false)).symm.trans done'
  have first := told_as_checked matched lists accepted plain escaped escaped context finishes
  have second := told_as_checked matched lists accepted plain escaped verbatim context finishes
  exact ⟨first ▸ Outcome.told_ne_unfinished finishes, second.trans first.symm⟩

/-- The text that is told of. -/
def Told.text? : Told → Option Text
  | .shown (.text _ content) => some content
  | _ => none

/-- A list of items. -/
def listSource : TemplateSource :=
  ⟨"%% for item in self.items \x7b\n- \x7b\x7b item \x7d\x7d\n%% \x7d\n", none, none, "text/plain; charset=utf-8"⟩

/-- An environment without a loader. -/
def plainEnvironment : Environment := ⟨none, 0, Environment.standardMarker⟩

/-- The items to be listed. -/
def listContext : Sketch := .context [("items", .list [.text false "pear", .int 2])]

/-- The world after the list's template was made. -/
def listWorld (escape : Bool) : World :=
  let world := (Session.start [] "site" [] false).world
  match Session.compileWith Registry.empty ⟨some escape, []⟩ plainEnvironment listSource world with
  | .done _ made => made
  | _ => world

theorem done_list (escape : Bool) : Session.compileWith Registry.empty ⟨some escape, []⟩ plainEnvironment listSource
    (Session.start [] "site" [] false).world = .done 0 (listWorld escape) := by
  have numbered : (match Session.compileWith Registry.empty ⟨some escape, []⟩ plainEnvironment listSource
      (Session.start [] "site" [] false).world with
    | .done number _ => some number
    | _ => none) = some 0 := by cases escape <;> decide +kernel
  unfold listWorld
  dsimp only
  split at numbered
  · rename_i made
    rw [made, Option.some.inj numbered]
  · cases numbered

/-- A list is the same whether its items are escaped or not. -/
theorem list_told_alike : ∃ tree, listSource.tree Environment.standardMarker = .ok tree ∧
    (∃ sheet sheet', ConvertApart Environment.standardMarker listSource (tree.plan true) (tree.plan false) sheet sheet') ∧
    ∀ escape, (renderSketch callValue Registry.empty 0 listContext (listWorld escape)).told.text? =
      some "- pear\n- 2\n".toList := by
  have planned : (listSource.plan Environment.standardMarker true).toOption.map Plan.instructions =
      some [.begin "for item in self.items" false 1, .literal "- " 2, .insert "item" true 2, .literal "\n" 2, .finish 3] := by
    decide +kernel
  rw [TemplateSource.plan] at planned
  cases accepted : listSource.tree Environment.standardMarker with
  | error =>
      rw [accepted] at planned
      cases planned
  | ok tree =>
      rw [accepted] at planned
      have instructions := Option.some.inj planned
      have head : Plainspoken "for item in self.items:" := ⟨by decide, _, rfl, by decide⟩
      have item : Plainspoken "item" := ⟨by decide, _, rfl, by decide⟩
      have plain : ∀ instruction ∈ (tree.plan true).instructions, ∀ text, instruction.script? = some text →
          Plainspoken text := by
        rw [show (tree.plan true).instructions = _ from instructions]
        simp only [List.forall_mem_cons, Instruction.script?, Option.some.injEq, forall_eq', reduceCtorEq, false_implies,
          implies_true, true_and]
        exact ⟨head, item, List.forall_mem_nil _⟩
      have finishes : renderSketch (checkedWithin loopBound callDepth) Registry.empty 0 listContext
          ((listWorld true).checking 0) ≠ .exhausted := Outcome.finishes_of_isDone (by decide +kernel)
      obtain ⟨apart, alike⟩ := @escaping_changes_converters plainEnvironment listSource tree accepted
      have both := (alike [] "site" [] false [] [] listContext 0 0 (listWorld true) (listWorld false) plain
        (done_list true) (done_list false) finishes).2
      have text : (renderSketch callValue Registry.empty 0 listContext (listWorld true)).told.text? =
          some "- pear\n- 2\n".toList := by decide +kernel
      refine ⟨tree, rfl, apart, fun escape => ?_⟩
      cases escape with
      | true => exact text
      | false => exact (congrArg Told.text? both).trans text

/-- The session after a template was made of a text. -/
def sessionWith (text : Text) (escape : Bool) : Session :=
  (Session.start [] "site" [] false).after [.define "t" (.template none text none none ⟨some escape, []⟩)]

/-- Whether rendering the template with its conversions checked gives a text. -/
def convertsPlainly (text : Text) (context : Sketch) : Bool :=
  let session := sessionWith text true
  (renderSketch (checkedWithin loopBound callDepth) session.registry 0 context (session.world.checking 0)).isDone

/-- What the template renders when it escapes values, and when it does not. -/
def decidedTexts (text : Text) (context : Sketch) : List Text :=
  outputTexts ([true, false].map fun escape => ((sessionWith text escape).step (.ask (.render "t" context))).1)

/-- A piece that is not a complete line, the routine itself and the template itself tell whether values are escaped, where
no conversion makes a difference and no own name of a routine is mentioned. -/
theorem decision_told_apart :
    let quotes : Text := "\x7b\x7b \"\"\" \x7d\x7d\x7b\x7b \"\"\" \x7d\x7d"
    let again : Text := "\x7b\x7b render(self.inner) is self.inner.text if self.inner else self.text \x7d\x7d"
    let nested : Sketch := .context [("inner", .context [("inner", .none), ("text", .text false "abc")])]
    let own : Text := "\x7b\x7b self.t.escape \x7d\x7d"
    let holder : Sketch := .context [("t", .template "t")]
    (∀ text ∈ [quotes, again, own], ¬ "_kiln_".toList <:+: text) ∧
      (convertsPlainly quotes (.context []) ∧ decidedTexts quotes (.context []) =
        ["\n        _kiln_append(_kiln_e(_kiln_value))\n        _kiln_value = ".toList,
          "\n        _kiln_append(_kiln_s(_kiln_value))\n        _kiln_value = ".toList]) ∧
      (convertsPlainly again nested ∧ decidedTexts again nested = ["False".toList, "True".toList]) ∧
      convertsPlainly own holder ∧ decidedTexts own holder = ["True".toList, "False".toList] := by
  decide +kernel

end Stencil

import Mathlib.Data.List.Basic
import Toolmark.Proofs.Runner.Clock
import Toolmark.Runner.History

/-!
# Runs in a history

A runner keeps nothing but its settings. So each run of a history is the one that a new runner makes
after the most recent value of each setting, whatever was run or set before.
-/

namespace Toolmark

namespace Runner

/-! ## Settings -/

namespace Setting

/-- The detectors, if the setting is about them. -/
def detectors? : Setting → Option (List Detector)
  | .detectors list => some list
  | _ => none

/-- The seconds, if the setting is about them. -/
def timeout? : Setting → Option Nat
  | .timeout seconds => some seconds
  | _ => none

/-- The mode, if the setting is about it. -/
def sequential? : Setting → Option Bool
  | .sequential flag => some flag
  | _ => none

/-- Both settings are about the same. -/
def SameKind : Setting → Setting → Prop
  | .detectors _, .detectors _ | .timeout _, .timeout _ | .sequential _, .sequential _ => True
  | _, _ => False

/-- The last value among settings. -/
def last? {α : Type} (value? : Setting → Option α) (settings : List Setting) : Option α :=
  settings.reverse.findSome? value?

theorem last?_cons {α : Type} (value? : Setting → Option α) (setting : Setting)
    (rest : List Setting) :
    last? value? (setting :: rest) = (last? value? rest).or (value? setting) := by
  rw [last?, List.reverse_cons, List.findSome?_append, List.findSome?_singleton]
  rfl

/-- The most recent value of each setting that has got one. -/
def recent (settings : List Setting) : List Setting :=
  ((last? detectors? settings).map .detectors).toList ++
    ((last? timeout? settings).map .timeout).toList ++
    ((last? sequential? settings).map .sequential).toList

end Setting

open Setting

theorem set_set_comm {left right : Setting} (different : ¬ left.SameKind right) (runner : Runner) :
    (runner.set left).set right = (runner.set right).set left := by
  cases left <;> cases right <;> first | rfl | exact absurd trivial different

/-- A runner holds the last value of each setting, or the one that it began with. -/
theorem foldl_set (settings : List Setting) (runner : Runner) :
    settings.foldl set runner =
      { detectors := (last? detectors? settings).getD runner.detectors
        timeoutSecs := (last? timeout? settings).getD runner.timeoutSecs
        sequential := (last? sequential? settings).getD runner.sequential } := by
  induction settings generalizing runner with
  | nil => rfl
  | cons setting rest induction =>
      rw [List.foldl_cons, induction, last?_cons, last?_cons, last?_cons]
      cases setting <;> simp [set, detectors?, timeout?, sequential?]

theorem foldl_recent (settings : List Setting) (runner : Runner) :
    (recent settings).foldl set runner = settings.foldl set runner := by
  rw [foldl_set settings, recent]
  cases last? detectors? settings <;> cases last? timeout? settings <;>
    cases last? sequential? settings <;> rfl

/-! ## Histories -/

/-- The new value that a step gives to a setting. -/
def Step.setting? : Step → Option Setting
  | .set setting => some setting
  | .run _ _ => none

/-- The settings of a history, first to last. -/
def settings (history : List Step) : List Setting := history.filterMap Step.setting?

/-- A new runner with the most recent value of each setting of a history. -/
def fresh (history : List Step) : Runner := (recent (settings history)).foldl set initial

theorem fresh_eq (history : List Step) :
    fresh history =
      { detectors := (last? detectors? (settings history)).getD Detector.allBuiltIn
        timeoutSecs := (last? timeout? (settings history)).getD 30
        sequential := (last? sequential? (settings history)).getD false } := by
  rw [fresh, foldl_recent, foldl_set]
  rfl

variable {tools : Tools}

theorem fst_step (runner : Runner) (step : Step) :
    (runner.step tools step).1 = step.setting?.toList.foldl set runner := by
  cases step <;> rfl

theorem fst_perform (runner : Runner) (history : List Step) :
    (perform tools runner history).1 = (settings history).foldl set runner := by
  induction history generalizing runner with
  | nil => rfl
  | cons step rest induction =>
      rw [perform, induction, fst_step]
      cases step <;> rfl

theorem fst_perform_initial (history : List Step) :
    (perform tools initial history).1 = fresh history := by
  rw [fst_perform, fresh, foldl_recent]

theorem perform_append (runner : Runner) (history rest : List Step) :
    perform tools runner (history ++ rest) =
      let before := perform tools runner history
      let behind := perform tools before.1 rest
      (behind.1, before.2 ++ behind.2) := by
  induction history generalizing runner with
  | nil => rfl
  | cons step history induction =>
      simp only [List.cons_append, perform, induction, List.append_assoc]

/-- A run in a history is made by the new runner with the settings before it. -/
theorem perform_append_run (history : List Step) (binary : String) (start : Instant)
    (rest : List Step) :
    (perform tools initial (history ++ .run binary start :: rest)).2 =
      (perform tools initial history).2 ++
        (fresh history).run tools binary start :: (perform tools (fresh history) rest).2 := by
  simp only [perform_append, fst_perform_initial]
  rfl

theorem perform_swap {left right : Setting} (different : ¬ left.SameKind right) (runner : Runner)
    (history rest : List Step) :
    perform tools runner (history ++ .set left :: .set right :: rest) =
      perform tools runner (history ++ .set right :: .set left :: rest) := by
  simp only [perform_append, perform, step, set_set_comm different]

theorem snd_perform_map_set (runner : Runner) (settings : List Setting) :
    (perform tools runner (settings.map .set)).2 = [] := by
  induction settings generalizing runner with
  | nil => rfl
  | cons setting rest induction =>
      rw [List.map_cons, perform, induction]
      rfl

theorem settings_map_set (list : List Setting) : settings (list.map .set) = list := by
  rw [settings, List.filterMap_map]
  exact List.filterMap_some

theorem perform_append_settings (history rest : List Step) :
    (perform tools initial (history ++ rest)).2 =
      (perform tools initial history).2 ++
        (perform tools initial ((settings history).map .set ++ rest)).2 := by
  simp only [perform_append, snd_perform_map_set, fst_perform, settings_map_set, List.nil_append]

end Runner

open Runner Runner.Setting

/-- Scripted tools and processes are steady. A new runner given the most recent value of each
setting has the last value of each, or the one that it begins with. In a history of a new runner
with steady tools and with deadlines that the clock can show, each run is the one that another new
runner makes at any instant after the most recent value of each setting. Settings of different kinds
may change places, the runs before do nothing to those behind, and a run that is repeated at once
gives the same again. Windows are taken without overflow, as of styles that fit the text
(`Style.Fits`). -/
theorem run_depends_on_recent_settings :
    (∀ result, (Tools.scripted result).Steady) ∧ (∀ work, (Tools.processes work).Steady) ∧
      initial = { detectors := Detector.allBuiltIn, timeoutSecs := 30, sequential := false } ∧
      (∀ history, fresh history =
        { detectors := (last? detectors? (settings history)).getD Detector.allBuiltIn
          timeoutSecs := (last? timeout? (settings history)).getD 30
          sequential := (last? sequential? (settings history)).getD false }) ∧
      ∀ tools : Tools, tools.Steady → ∀ history : List Step,
        (∀ binary start again rest, (fresh history).Fits start → (fresh history).Fits again →
          ∃ run, (fresh history).run tools binary again = .ok run ∧
            (perform tools initial (history ++ .run binary start :: rest)).2 =
              (perform tools initial history).2 ++
                .ok run :: (perform tools (fresh history) rest).2) ∧
        (∀ left right rest, ¬ left.SameKind right →
          perform tools initial (history ++ .set left :: .set right :: rest) =
            perform tools initial (history ++ .set right :: .set left :: rest)) ∧
        (∀ rest, (perform tools initial (history ++ rest)).2 =
          (perform tools initial history).2 ++
            (perform tools initial ((settings history).map .set ++ rest)).2) ∧
        ∀ binary start again rest, (fresh history).Fits start → (fresh history).Fits again →
          ∃ run, (perform tools initial
              (history ++ .run binary start :: .run binary again :: rest)).2 =
            (perform tools initial history).2 ++
              .ok run :: .ok run :: (perform tools (fresh history) rest).2 := by
  refine ⟨Tools.steady_scripted, Tools.steady_processes, rfl, fresh_eq, fun tools steady history =>
    ⟨?_, fun left right rest different => perform_swap different initial history rest,
      perform_append_settings history, ?_⟩⟩
  · intro binary start again rest fits fitsAgain
    obtain ⟨run, run_eq⟩ := exists_run_of_fits fitsAgain tools binary
    refine ⟨run, run_eq, ?_⟩
    rw [perform_append_run, run_eq_of_fits steady fits fitsAgain, run_eq]
  · intro binary start again rest fits fitsAgain
    obtain ⟨run, run_eq⟩ := exists_run_of_fits fitsAgain tools binary
    refine ⟨run, ?_⟩
    rw [perform_append_run, run_eq_of_fits steady fits fitsAgain, perform, step, run_eq]
    rfl

/-- A run without time, a new mode and two changes of the time. -/
def mixedHistory : List Step :=
  [.set (.timeout 0), .run "app" 0, .set (.sequential true), .set (.timeout 5), .run "app" 0,
    .set (.timeout 60)]

/-- What is run next has 60 seconds and runs its tools in turn, at any instant. -/
theorem run_depends_on_recent_settings_mixed :
    let tools := Tools.scripted fun _ => .ok "rustc"
    let runner := Runner.mk Detector.allBuiltIn 60 true
    runner.Fits 5000 ∧ runner.Fits 0 ∧ ¬ (Setting.timeout 60).SameKind (.sequential false) ∧
      (∃ run, runner.run tools "app" 0 = .ok run ∧
        (perform tools initial (mixedHistory ++ [.run "app" 5000])).2 =
          (perform tools initial mixedHistory).2 ++ [.ok run]) ∧
      (∃ run, (perform tools initial (mixedHistory ++ [.run "app" 5000, .run "app" 0])).2 =
        (perform tools initial mixedHistory).2 ++ [.ok run, .ok run]) ∧
      perform tools initial (mixedHistory ++ [.set (.timeout 60), .set (.sequential false)]) =
        perform tools initial (mixedHistory ++ [.set (.sequential false), .set (.timeout 60)]) := by
  intro tools runner
  have fits : runner.Fits 5000 := by decide
  have fitsAgain : runner.Fits 0 := by decide
  have different : ¬ (Setting.timeout 60).SameKind (.sequential false) := not_false
  obtain ⟨steady, _, _, _, histories⟩ := run_depends_on_recent_settings
  obtain ⟨alone, swapped, _, repeated⟩ := histories tools (steady _) mixedHistory
  exact ⟨fits, fitsAgain, different, alone "app" 5000 0 [] fits fitsAgain,
    repeated "app" 5000 0 [] fits fitsAgain, swapped _ _ [] different⟩

end Toolmark

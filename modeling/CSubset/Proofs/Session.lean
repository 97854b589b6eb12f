import CSubset.Proofs.Files
import CSubset.Proofs.Path
import CSubset.Session

/-!
# What a session leaves behind

A session that succeeds has written the generated text under the output path, and perhaps a trace; one that fails has
written at most a trace, and not even that if it failed before or at the trace. Both paths are those that were asked for,
or else the path of the input with another extension (`places_iff`).
-/

namespace CSubset

section
variable {σ Place : Type} {v : FileMap σ Place} {h : Host (StateM σ)}

def Targets.tracePaths (t : Targets) (s : Settings) (input : String) : List String :=
  if s.writeTrace then [t.tracePath input] else []

namespace Host.Respects
variable (k : h.Respects v)
include k

/-! ## Compiling a file -/

theorem writeArtifact (r : Reporter) (path text : String) (w : σ) :
    After (writeArtifact h r path text).run w fun result w' =>
      match result with
      | .ok () => v.Written w w' path (some text)
      | .error _ => v.ChangedOnly w w' [] ∧ h.RefusesWrite w path text := by
  unfold CSubset.writeArtifact
  rcases ran : (h.write path text).run w with ⟨result, w₁⟩
  have written := (k.write path text w).elim ran
  refine .lift (.of_run ran ?_)
  cases result with
  | error failure =>
    have refused : h.RefusesWrite w path text := ⟨failure, congrArg Prod.fst ran⟩
    exact .lift ((k.report _ _).after fun _ w₂ same => ⟨written.trans same, refused⟩)
  | ok => exact .liftLast ((k.report _ _).after fun _ w₂ same => written.trans_same same)

theorem writeTrace (r : Reporter) (s : Settings) (t : Targets) (input : String) (c : Compilation) (w : σ) :
    After (writeTrace h r s t input c).run w fun result w' =>
      match result with
      | .ok _ => v.ChangedOnly w w' (t.tracePaths s input)
      | .error _ => v.ChangedOnly w w' [] := by
  unfold CSubset.writeTrace Targets.tracePaths
  cases s.writeTrace with
  | false => exact .refl
  | true =>
    refine .lift (k.now.after fun time w₁ same => ?_)
    refine .andThen ((k.writeArtifact r _ _ w₁).mono ?_)
    rintro (failure | _) w₂ written
    · exact same.trans written.1
    · exact same.trans written.1

theorem reportDiagnostics (r : Reporter) (c : Compilation) : v.Spares (reportDiagnostics h r c) :=
  .bind (.forM (fun _ => k.report _ _) _) fun _ => k.report _ _

theorem writeOutput (r : Reporter) (t : Targets) (input : String) (c : Compilation) (w : σ) :
    After (writeOutput h r t input c).run w fun result w' =>
      match result with
      | .ok _ => v.Written w w' (t.outputPath input) c.output
      | .error _ => v.ChangedOnly w w' [] ∧
          ∃ text, c.output = some text ∧ h.RefusesWrite w (t.outputPath input) text := by
  unfold CSubset.writeOutput
  cases c.output with
  | none => exact .lift ((k.reportDiagnostics r c).after fun _ w₁ same => same)
  | some text =>
    refine .andThen ((k.writeArtifact r _ _ w).mono ?_)
    rintro (failure | _) w₁ written
    · exact ⟨written.1, text, rfl, written.2⟩
    · exact written

theorem traceFile (r : Reporter) (s : Settings) (t : Targets) (input : String) (w : σ) :
    After (traceFile h r s t input).run w fun result w' =>
      match result with
      | .ok f => v.ChangedOnly w w' (t.tracePaths s input) ∧ v.text? w input = some f.file.text ∧
          compile s.layout Limits.current.maxTokenCount f.file.text = .ok f.compilation
      | .error _ => v.ChangedOnly w w' [] := by
  unfold CSubset.traceFile
  refine .lift (k.now.after fun start w₁ same₁ => ?_)
  refine .lift ((k.report _ _).after fun _ w₂ same₂ => ?_)
  refine .andThen (.adapt ((k.load r false input w₂).mono ?_))
  rintro (e | file) w₃ ⟨same₃, held⟩
  · exact (same₁.trans same₂).trans same₃
  · have found : v.text? w input = some file.text := by
      rw [← (same₁.trans same₂).text?_eq]
      exact held file rfl
    have same := (same₁.trans same₂).trans same₃
    refine .andThen (.known ?_)
    cases compiled : compile s.layout Limits.current.maxTokenCount file.text with
    | error fault => exact same
    | ok c =>
      refine .lift ((k.report _ _).after fun _ w₄ same₄ => ?_)
      refine .andThen ((k.writeTrace r s t input c w₄).mono ?_)
      rintro (e | trace) w₅ written
      · exact (same.trans same₄).trans written
      · exact ⟨(same.trans same₄).same_trans written, found, compiled⟩

theorem finishFile (r : Reporter) (t : Targets) (input : String) (f : TracedFile) (w : σ) :
    After (finishFile h r t input f).run w fun result w' =>
      match result with
      | .ok c => v.Written w w' (t.outputPath input) f.compilation.output ∧ c.compilation = f.compilation
      | .error _ => v.ChangedOnly w w' [] ∧
          ∃ text, f.compilation.output = some text ∧ h.RefusesWrite w (t.outputPath input) text := by
  unfold CSubset.finishFile
  refine .andThen ((k.writeOutput r t input f.compilation w).mono ?_)
  rintro (e | output) w₁ written
  · exact written
  · refine .lift (k.now.after fun stop w₂ same₂ => ?_)
    dsimp only
    split
    · exact .lift ((k.report _ _).after fun _ w₃ same₃ => ⟨(written.trans_same same₂).trans_same same₃, rfl⟩)
    · exact ⟨written.trans_same same₂, rfl⟩

/-! ## Sessions -/

theorem loadSettings (env : Environment) (o : Options) : v.Spares (Session.loadSettings h env o) := by
  unfold Session.loadSettings
  cases o.config with
  | none => exact .bind (.pure _) fun _ => .pure _
  | some path =>
    refine .bind (.of_after fun w => .bind ((k.readText path w).mono ?_)) fun _ => .pure _
    rintro (failure | text) w₁ ⟨same, -⟩
    · exact same
    · exact same

theorem fail {Q : ExitStatus → σ → Prop} {w : σ} (code message : String)
    (done : ∀ w', v.ChangedOnly w w' [] → Q .failure w') : After (Session.fail h code message) w Q :=
  .bind ((k.print _ _).after fun _ => done)

theorem reportFailure {Q : ExitStatus → σ → Prop} {w : σ} (json : Bool) (c : FileCompilation)
    (done : ∀ w', v.ChangedOnly w w' [] → Q .failure w') : After (Session.reportFailure h json c) w Q := by
  unfold Session.reportFailure
  cases json with
  | true => exact .bind ((k.print _ _).after fun _ => done)
  | false =>
    refine .bind ((k.print _ _).after fun _ w₁ same₁ => ?_)
    cases Session.diagnosticLines c.file.text c.compilation.diagnostics with
    | error fault => exact k.fail _ _ fun w₂ same₂ => done w₂ (same₁.trans same₂)
    | ok lines =>
      refine .bind ((FileMap.Spares.forM (k.print _) lines).after fun _ w₂ same₂ => ?_)
      have same := same₁.trans same₂
      cases c.trace with
      | none => exact done w₂ same
      | some path => exact .bind ((k.print _ _).after fun _ w₃ same₃ => done w₃ (same.trans same₃))

end Host.Respects

theorem output_isSome_of_compile {layout : Layout} {limit : Nat} {source : String} {c : Compilation}
    (h : compile layout limit source = .ok c) : c.output.isSome = c.succeeded := by
  unfold compile at h
  obtain ⟨s, -, made⟩ := exists_of_bind_ok h
  cases made
  unfold Compilation.ofScan Compilation.succeeded
  dsimp only
  split
  · next none => rw [none]; rfl
  · next some => simp [some]

namespace Session

def tracing (h : Host (StateM σ)) (o : Options) (s : Settings) : ExceptT RunError (StateM σ) TracedFile := do
  (startLog h (.ofSettings s.log) : StateM σ Unit)
  traceFile h { service := some (.ofSettings s.log), file := some o.input } s (targets o) o.input

/-- Something goes wrong on the way to the trace: the arguments, the settings, the reading of the input or the writing
of the trace itself. -/
inductive EarlyFailure (h : Host (StateM σ)) (env : Environment) (args : List String) (w : σ) : Prop
  | usage {e : UsageError} (asked : Options.ofArguments args = .error e)
  | settings {o : Options} {e : SettingsError} {w₁ : σ} (asked : Options.ofArguments args = .ok o)
      (help : o.help = false) (loaded : (loadSettings h env o).run w = (.error e, w₁))
  | run {o : Options} {s : Settings} {e : RunError} {w₁ w₂ : σ} (asked : Options.ofArguments args = .ok o)
      (help : o.help = false) (loaded : (loadSettings h env o).run w = (.ok s, w₁))
      (traced : (tracing h o s).run.run w₁ = (.error e, w₂))

theorem tracing_after (k : h.Respects v) (o : Options) (s : Settings) (w : σ) :
    After (tracing h o s).run w fun result w' =>
      match result with
      | .ok f => v.ChangedOnly w w' ((targets o).tracePaths s o.input) ∧ v.text? w o.input = some f.file.text ∧
          compile s.layout Limits.current.maxTokenCount f.file.text = .ok f.compilation
      | .error _ => v.ChangedOnly w w' [] := by
  refine .lift ((k.report _ _).after fun _ w₁ same => ?_)
  refine (k.traceFile _ s (targets o) o.input w₁).mono ?_
  rintro (e | f) w₂ traced
  · exact same.trans traced
  · rw [same.text?_eq] at traced
    exact ⟨same.same_trans traced.1, traced.2⟩

theorem compileInput_eq (o : Options) (s : Settings) : compileInput h o s =
    (tracing h o s >>= finishFile h { service := some (.ofSettings s.log), file := some o.input } (targets o)
      o.input).run >>= conclude h o s :=
  rfl

theorem EarlyFailure.after (k : h.Respects v) {env : Environment} {args : List String} {w : σ}
    (early : EarlyFailure h env args w) (program : String) :
    After (Session.run h env program args) w fun status w' => status = .failure ∧ v.ChangedOnly w w' [] := by
  unfold Session.run
  cases early with
  | usage asked =>
    rw [asked]
    refine .bind ((k.print _ _).after fun _ w₁ same₁ => ?_)
    exact .bind ((k.print _ _).after fun _ w₂ same₂ => ⟨rfl, same₁.trans same₂⟩)
  | @settings o e w₁ asked help loaded =>
    have same₁ := (k.loadSettings env o).elim loaded
    rw [asked]
    dsimp only
    rw [help]
    refine .bind (.of_run loaded ?_)
    apply k.fail
    intro w₂ same₂
    exact ⟨rfl, same₁.trans same₂⟩
  | @run o s e w₁ w₂ asked help loaded traced =>
    have same₁ := (k.loadSettings env o).elim loaded
    have same₂ := (tracing_after k o s w₁).elim traced
    rw [asked]
    dsimp only
    rw [help]
    refine .bind (.of_run loaded ?_)
    dsimp only
    rw [compileInput_eq]
    refine .bind (.andThen (.of_run traced ?_))
    apply k.fail
    intro w₃ same₃
    exact ⟨rfl, (same₁.trans same₂).trans same₃⟩

end Session

end

end CSubset

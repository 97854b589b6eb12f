import CSubset.Proofs.Path
import CSubset.Proofs.Session

/-!
# What becomes of the input of a run

A run that is given no targets writes under the path of its input with other extensions. The input is lost if one of
these paths names it, and without links this takes an input that has that very extension (`input_survives`).
-/

namespace CSubset

/-! ## Files with several paths -/

section
variable {σ Place : Type} {v : FileMap σ Place} {w w' : σ}

namespace FileMap

variable (v) in
def SameFile (w : σ) (p q : String) : Prop :=
  ∃ k, v.place? w p = some k ∧ v.place? w q = some k ∧ (v.content? w k).isSome

variable (v) in
/-- The paths that name a file all end in the same name. -/
def NoLinks (w : σ) : Prop :=
  ∀ p q, v.SameFile w p q → ∃ name, Path.fileName? p = some name ∧ Path.fileName? q = some name

theorem NoLinks.extension?_eq (free : v.NoLinks w) {path e : String} (he : Path.IsExtension e)
    (same : v.SameFile w (Path.withExtension path e) path) : Path.extension? path = some e := by
  obtain ⟨name, named, named'⟩ := free _ _ same
  rw [← Path.extension?_withExtension named he]
  unfold Path.extension?
  rw [named, named']

theorem ChangedOnly.at?_eq_or {ps : List String} {path : String} (only : v.ChangedOnly w w' ps)
    (there : (v.at? w path).isSome) : v.at? w' path = v.at? w path ∨ ∃ p ∈ ps, v.SameFile w p path := by
  by_cases apart : ∀ p ∈ ps, v.place? w path ≠ v.place? w p
  · exact .inl (only.at?_eq apart)
  · obtain ⟨p, hp, same⟩ : ∃ p ∈ ps, v.place? w path = v.place? w p := by simpa using apart
    obtain ⟨k, named, held⟩ : ∃ k, v.place? w path = some k ∧ (v.content? w k).isSome := by
      unfold at? at there
      cases named : v.place? w path with
      | none => simp [named] at there
      | some k => exact ⟨k, rfl, by simpa [named] using there⟩
    exact .inr ⟨p, hp, k, same ▸ named, named, held⟩

theorem isSome_at? {path text : String} (h : v.text? w path = some text) : (v.at? w path).isSome := by
  unfold text? at h
  cases found : v.at? w path with
  | none => simp [found] at h
  | some bytes => rfl

end FileMap

end

/-! ## Stores have no links -/

namespace Store
variable {s : Store} {l : Location}

def Rooted (s : Store) : Prop := ∀ e ∈ s.entries, s.get? e.1.dropLast = some .directory

theorem Rooted.dropLast (rooted : s.Rooted) {entry : Entry} (there : s.get? l = some entry) :
    s.get? l.dropLast = some .directory := by
  unfold get? at there
  split at there
  · next root => simp [get?, root]
  · obtain ⟨e, found, -⟩ := Option.map_eq_some_iff.mp there
    have same : e.1 = l := by simpa using List.find?_some found
    rw [← same]
    exact rooted e (List.mem_of_find?_eq_some found)

theorem content?_directory (h : s.get? l = some .directory) : s.content? l = none := by
  unfold content?
  rw [h]

theorem Rooted.follow_single (rooted : s.Rooted) {parent : Location} {part : String}
    (led : s.follow parent [part] = .ok l) (file : s.get? l ≠ some .directory) :
    part ≠ "." ∧ part ≠ ".." ∧ l = parent ++ [part] := by
  rw [follow] at led
  split at led
  · cases led
  · cases led
  · next there =>
    split at led
    · cases led
      exact absurd there file
    · split at led
      · cases led
        exact absurd (rooted.dropLast there) file
      · split at led
        · cases led
        · cases led
          exact ⟨‹_›, ‹_›, rfl⟩

theorem origin_of_parts {path : String} (accepted : refused? path = none) (none : parts path = []) :
    s.origin path = [] := by
  obtain ⟨-, n, slashes⟩ := slashes_of_filter_eq_nil none
  cases n with
  | zero =>
    cases String.toList_inj.mp (slashes.trans (show _ = "".toList from rfl))
    cases accepted
  | succ n =>
    unfold origin
    rw [slashes]
    rfl

theorem Rooted.fileName?_eq (rooted : s.Rooted) {path : String} (named : s.place? path = some l)
    (held : (s.content? l).isSome) : ∃ name, l.getLast? = some name ∧ Path.fileName? path = some name := by
  have file : s.get? l ≠ some .directory := by
    intro directory
    rw [content?_directory directory] at held
    cases held
  unfold place? at named
  split at named
  · cases named
  · next accepted =>
    have led : s.follow (s.origin path) (parts path) = .ok l := by
      cases found : s.follow (s.origin path) (parts path) with
      | error failure => simp [found, Except.toOption] at named
      | ok k => simpa [found, Except.toOption] using named
    cases last : (parts path).getLast? with
    | none =>
      have empty := List.getLast?_eq_none_iff.mp last
      rw [empty, origin_of_parts (by simpa using accepted) empty] at led
      cases led
      exact absurd rfl file
    | some name =>
      rw [← List.dropLast_append_getLast? name last, follow_append] at led
      obtain ⟨parent, -, led⟩ := exists_of_bind_ok led
      obtain ⟨dot, dots, rfl⟩ := rooted.follow_single led file
      exact ⟨name, by simp, fileName?_of_parts last dot dots⟩

end Store

theorem World.noLinks {w : World} (rooted : w.store.Rooted) : World.files.NoLinks w := by
  rintro p q ⟨l, hp, hq, held⟩
  obtain ⟨name, last, named⟩ := rooted.fileName?_eq hp held
  obtain ⟨name', last', named'⟩ := rooted.fileName?_eq hq held
  cases last.symm.trans last'
  exact ⟨name, named, named'⟩

/-! ## Which files a run can change -/

/-- File operations that act on a map of files. A write leaves all files alone but the one it is to write, and that one
can be in any state if the write fails. -/
structure Host.Confined {σ Place : Type} (h : Host (StateM σ)) (v : FileMap σ Place) : Prop where
  stat : ∀ path, v.Spares (h.stat path)
  print : ∀ channel text, v.Spares (h.print channel text)
  now : v.Spares h.now
  read : ∀ path w, After (h.read path) w fun result w' =>
    v.ChangedOnly w w' [] ∧ ∀ bytes, result = .ok bytes → v.at? w path = some bytes
  write : ∀ path text w, After (h.write path text) w fun _ w' => v.ChangedOnly w w' [path]

section
variable {σ Place : Type} {v : FileMap σ Place} {h : Host (StateM σ)}

theorem Host.Respects.confined (k : h.Respects v) : h.Confined v where
  stat := k.stat
  print := k.print
  now := k.now
  read := k.read
  write path text w := by
    refine (k.write path text w).mono ?_
    intro result w' written
    cases result with
    | ok => exact written.1
    | error failure => exact FileMap.ChangedOnly.same_trans written .refl

def Targets.outputPaths (t : Targets) (c : Compilation) (input : String) : List String :=
  if c.output.isSome then [t.outputPath input] else []

def Host.readOnly (h : Host (StateM σ)) : Host (StateM σ) :=
  { h with write := fun _ _ => pure (.error .permissionDenied) }

namespace Host.Confined
variable (k : h.Confined v)
include k

-- what never writes is the same on both hosts, so all that is known of it carries over
theorem readOnly : h.readOnly.Respects v where
  stat := k.stat
  print := k.print
  now := k.now
  read := k.read
  write _ _ _ := .refl

theorem report (r : Reporter) (e : Event) : v.Spares (h.report r e) := k.readOnly.report r e

theorem writeArtifact (r : Reporter) (path text : String) (w : σ) :
    After (writeArtifact h r path text).run w fun _ w' => v.ChangedOnly w w' [path] := by
  unfold CSubset.writeArtifact
  refine .lift ((k.write path text w).mono ?_)
  intro result w₁ only
  cases result with
  | error failure => exact .lift ((k.report _ _).after fun _ w₂ same => only.trans same)
  | ok => exact .liftLast ((k.report _ _).after fun _ w₂ same => only.trans same)

theorem writeTrace (r : Reporter) (s : Settings) (t : Targets) (input : String) (c : Compilation) (w : σ) :
    After (writeTrace h r s t input c).run w fun _ w' => v.ChangedOnly w w' (t.tracePaths s input) := by
  unfold CSubset.writeTrace Targets.tracePaths
  cases s.writeTrace with
  | false => exact .refl
  | true =>
    refine .lift (k.now.after fun time w₁ same => ?_)
    refine .andThen ((k.writeArtifact r _ _ w₁).mono ?_)
    intro result w₂ only
    cases result with
    | error e => exact same.trans only
    | ok => exact same.trans only

theorem writeOutput (r : Reporter) (t : Targets) (input : String) (c : Compilation) (w : σ) :
    After (writeOutput h r t input c).run w fun _ w' => v.ChangedOnly w w' (t.outputPaths c input) := by
  unfold CSubset.writeOutput Targets.outputPaths
  cases c.output with
  | none => exact .lift ((k.readOnly.reportDiagnostics r c).after fun _ w₁ same => same)
  | some text =>
    refine .andThen ((k.writeArtifact r _ _ w).mono ?_)
    intro result w₁ only
    cases result with
    | error e => exact only
    | ok => exact only

theorem finishFile (r : Reporter) (t : Targets) (input : String) (f : TracedFile) (w : σ) :
    After (finishFile h r t input f).run w fun _ w' => v.ChangedOnly w w' (t.outputPaths f.compilation input) := by
  unfold CSubset.finishFile
  refine .andThen ((k.writeOutput r t input f.compilation w).mono ?_)
  intro result w₁ only
  cases result with
  | error e => exact only
  | ok output =>
    refine .lift (k.now.after fun stop w₂ same₂ => ?_)
    dsimp only
    split
    · exact .lift ((k.report _ _).after fun _ w₃ same₃ => (only.trans same₂).trans same₃)
    · exact only.trans same₂

theorem traceFile (r : Reporter) (s : Settings) (t : Targets) (input : String) (w : σ) :
    After (traceFile h r s t input).run w fun result w' =>
      ((∀ f, result ≠ .ok f) ∧ v.ChangedOnly w w' []) ∨
        ∃ source c, v.text? w input = some source ∧ compile s.layout Limits.current.maxTokenCount source = .ok c ∧
          v.ChangedOnly w w' (t.tracePaths s input) ∧ ∀ f, result = .ok f → f.compilation = c := by
  unfold CSubset.traceFile
  refine .lift (k.now.after fun start w₁ same₁ => ?_)
  refine .lift ((k.report _ _).after fun _ w₂ same₂ => ?_)
  have same := same₁.trans same₂
  refine .andThen (.adapt ((k.readOnly.load r false input w₂).mono ?_))
  intro loaded w₃ ⟨same₃, held⟩
  cases loaded with
  | error e => exact .inl ⟨nofun, same.trans same₃⟩
  | ok file =>
    have read : v.text? w input = some file.text := by
      rw [← same.text?_eq]
      exact held file rfl
    refine .andThen (.known ?_)
    cases compiled : compile s.layout Limits.current.maxTokenCount file.text with
    | error fault => exact .inl ⟨nofun, same.trans same₃⟩
    | ok c =>
      refine .lift ((k.report _ _).after fun _ w₄ same₄ => ?_)
      refine .andThen ((k.writeTrace r s t input c w₄).mono ?_)
      intro written w₅ only
      have changed := ((same.trans same₃).trans same₄).same_trans only
      cases written with
      | error e => exact .inr ⟨file.text, c, read, compiled, changed, nofun⟩
      | ok trace => exact .inr ⟨file.text, c, read, compiled, changed, by rintro _ ⟨⟩; rfl⟩

theorem compileFile (service : Option LogService) (s : Settings) (t : Targets) (input : String) (w : σ) :
    After (compileFile h service s t input).run w fun _ w' =>
      v.ChangedOnly w w' [] ∨
        ∃ source c, v.text? w input = some source ∧ compile s.layout Limits.current.maxTokenCount source = .ok c ∧
          v.ChangedOnly w w' (t.outputPaths c input ++ t.tracePaths s input) := by
  unfold CSubset.compileFile
  refine .andThen ((k.traceFile _ s t input w).mono ?_)
  intro traced w₁ done
  cases traced with
  | error e =>
    rcases done with ⟨-, same⟩ | ⟨source, c, read, compiled, only, -⟩
    · exact .inl same
    · exact .inr ⟨source, c, read, compiled, only.trans .refl⟩
  | ok f =>
    rcases done with ⟨failed, -⟩ | ⟨source, c, read, compiled, only, made⟩
    · exact absurd rfl (failed f)
    · cases made f rfl
      refine (k.finishFile _ t input f w₁).mono ?_
      intro result w₂ finished
      exact .inr ⟨source, _, read, compiled, only.trans finished⟩

end Host.Confined

/-- **Survival of the input.** After a run without targets the input is as it was, unless the trace was written over it or
the generated text was. Without links, the one happens only to an input with the extension of a trace, and the other
only to one with the extension of a generated text. -/
theorem input_survives (k : h.Confined v) (service : Option LogService) (s : Settings) (input : String) (w : σ) :
    ∃ result w', (compileFile h service s {} input).run.run w = (result, w') ∧
      (v.at? w' input = v.at? w input ∨
        (s.writeTrace ∧ v.SameFile w (Targets.defaultTrace input) input) ∨
        ((∃ source c, v.text? w input = some source ∧
            compile s.layout Limits.current.maxTokenCount source = .ok c ∧ c.succeeded) ∧
          v.SameFile w (Targets.defaultOutput input) input)) ∧
      (v.NoLinks w →
        (v.SameFile w (Targets.defaultTrace input) input → Path.extension? input = some "log") ∧
        (v.SameFile w (Targets.defaultOutput input) input → Path.extension? input = some "py")) := by
  have ends := k.compileFile service s {} input w
  rcases ran : (compileFile h service s {} input).run.run w with ⟨result, w'⟩
  refine ⟨result, w', rfl, ?_, ?_⟩
  · rcases ends.elim ran with same | ⟨source, c, read, compiled, only⟩
    · exact .inl (same.at?_eq (by simp))
    · refine (only.at?_eq_or (FileMap.isSome_at? read)).imp_right ?_
      rintro ⟨p, hp, same⟩
      rcases List.mem_append.mp hp with hp | hp
      · unfold Targets.outputPaths at hp
        split at hp
        · next output =>
          cases List.mem_singleton.mp hp
          exact .inr ⟨⟨source, c, read, compiled, output_isSome_of_compile compiled ▸ output⟩, same⟩
        · cases hp
      · unfold Targets.tracePaths at hp
        split at hp
        · next wanted =>
          cases List.mem_singleton.mp hp
          exact .inl ⟨wanted, same⟩
        · cases hp
  · intro free
    exact ⟨free.extension?_eq ⟨by decide, by decide, by decide⟩, free.extension?_eq ⟨by decide, by decide, by decide⟩⟩

end

theorem input_survives_beside_targets :
    let s : Settings := ⟨⟨4, true⟩, ⟨false, false, .error⟩, true, false⟩
    let w : World := { store := ⟨[(["w"], .directory), (["w", "p.py"], .file "".toUTF8), (["w", "p.log"], .file "".toUTF8),
      (["w", "p.c"], .file "main()\x7bint x; print(x);\x7d".toUTF8)], ["w"]⟩ }
    (World.host ⟨0, 0⟩).Confined World.files ∧ World.files.NoLinks w ∧
      ∃ result w', (compileFile (World.host ⟨0, 0⟩) none s {} "p.c").run.run w = (result, w') ∧
        World.files.at? w' "p.c" = World.files.at? w "p.c" := by
  intro s w
  have free : World.files.NoLinks w := by
    apply World.noLinks
    intro e he
    simp only [w, List.mem_cons, List.not_mem_nil, or_false] at he
    rcases he with rfl | rfl | rfl | rfl
    · rfl
    · rfl
    · rfl
    · rfl
  have confined := (World.host_respects ⟨0, 0⟩).confined
  refine ⟨confined, free, ?_⟩
  obtain ⟨result, w', ran, survives, lost⟩ := input_survives confined none s "p.c" w
  refine ⟨result, w', ran, survives.resolve_right ?_⟩
  rintro (⟨-, same⟩ | ⟨-, same⟩)
  · exact absurd ((lost free).1 same) (by decide)
  · exact absurd ((lost free).2 same) (by decide)

/-- A generated text that compiles again is lost, and so is an input that is named like a trace. -/
theorem input_overwritten :
    let s : Settings := ⟨⟨4, true⟩, ⟨false, false, .error⟩, true, false⟩
    let w : World := { store := ⟨[(["w"], .directory), (["w", "p.py"], .file "main()\x7b\x7d".toUTF8),
      (["w", "p.log"], .file "main()\x7b\x7d".toUTF8)], ["w"]⟩ }
    ∀ input ∈ ["p.py", "p.log"], World.files.at? w input = some "main()\x7b\x7d".toUTF8 ∧
      World.files.at? ((compileFile (World.host ⟨0, 0⟩) none s {} input).run.run w).2 input ≠
        some "main()\x7b\x7d".toUTF8 := by
  decide +kernel

end CSubset

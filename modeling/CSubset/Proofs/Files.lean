import Mathlib.Data.List.Basic
import CSubset.File.Store
import CSubset.SourceFile

/-!
# What a run does to files

`Host.Respects` says that file operations read and write a map from places to contents, and that a failed write changes
nothing. From there on every function that uses files is described by what holds after it (`After`): which files have
changed, and what its result has to do with their contents.
-/

namespace CSubset

/-! ## Maps of files -/

/-- The files of a state as a map. Several paths can name one place. -/
structure FileMap (σ Place : Type) where
  place? : σ → String → Option Place
  content? : σ → Place → Option ByteArray

namespace FileMap
variable {σ Place : Type} (v : FileMap σ Place)

def at? (w : σ) (path : String) : Option ByteArray := (v.place? w path).bind (v.content? w)

def ChangedOnly (w w' : σ) (paths : List String) : Prop :=
  v.place? w' = v.place? w ∧
    ∀ k, (∀ p ∈ paths, v.place? w p ≠ some k) → v.content? w' k = v.content? w k

variable {v} {w w' w'' : σ} {ps qs : List String}

theorem ChangedOnly.refl : v.ChangedOnly w w ps := ⟨rfl, fun _ _ => rfl⟩

theorem ChangedOnly.trans (first : v.ChangedOnly w w' ps) (second : v.ChangedOnly w' w'' qs) :
    v.ChangedOnly w w'' (qs ++ ps) := by
  refine ⟨second.1.trans first.1, ?_⟩
  intro k apart
  rw [second.2 k, first.2 k]
  · exact fun p hp => apart p (List.mem_append_right _ hp)
  · rw [first.1]
    exact fun p hp => apart p (List.mem_append_left _ hp)

theorem ChangedOnly.same_trans (same : v.ChangedOnly w w' []) (h : v.ChangedOnly w' w'' ps) :
    v.ChangedOnly w w'' ps := by
  simpa using same.trans h

theorem ChangedOnly.at?_eq (h : v.ChangedOnly w w' ps) {path : String}
    (apart : ∀ p ∈ ps, v.place? w path ≠ v.place? w p) : v.at? w' path = v.at? w path := by
  unfold at?
  rw [h.1]
  cases named : v.place? w path with
  | none => rfl
  | some k =>
    apply h.2 k
    intro p hp same
    exact apart p hp (named.trans same.symm)

variable (v) in
/-- A text has been written under a path, if there was one to write, and nothing else has changed. -/
def Written (w w' : σ) (path : String) : Option String → Prop
  | some text => v.ChangedOnly w w' [path] ∧ v.at? w' path = some text.toUTF8
  | none => v.ChangedOnly w w' []

theorem Written.trans_same {path : String} {text : Option String} (h : v.Written w w' path text)
    (same : v.ChangedOnly w' w'' []) : v.Written w w'' path text := by
  cases text with
  | none => exact h.trans same
  | some text => exact ⟨h.1.trans same, (same.at?_eq (by simp)).trans h.2⟩

variable (v) in
def Spares {α : Type} (x : StateM σ α) : Prop := ∀ w, v.ChangedOnly w (x.run w).2 []

theorem Spares.pure {α : Type} (a : α) : v.Spares (Pure.pure a : StateM σ α) := fun _ => .refl

theorem Spares.bind {α β : Type} {x : StateM σ α} {f : α → StateM σ β} (hx : v.Spares x)
    (hf : ∀ a, v.Spares (f a)) : v.Spares (x >>= f) :=
  fun w => (hx w).trans (hf _ _)

theorem Spares.lift_bind {ε α β : Type} {x : StateM σ α} {f : α → ExceptT ε (StateM σ) β} (hx : v.Spares x)
    (hf : ∀ a, v.Spares (f a).run) : v.Spares ((liftM x : ExceptT ε (StateM σ) α) >>= f).run :=
  hx.bind hf

theorem Spares.forM {α : Type} {f : α → StateM σ PUnit} (hf : ∀ a, v.Spares (f a)) (l : List α) :
    v.Spares (l.forM f) := by
  induction l with
  | nil => exact .pure _
  | cons a l ih => exact .bind (hf a) fun _ => ih

end FileMap

/-! ## After a computation -/

section
variable {σ α β ε ε' : Type}

def After (x : StateM σ α) (w : σ) (Q : α → σ → Prop) : Prop := Q (x.run w).1 (x.run w).2

namespace After
variable {w : σ} {x : StateM σ α} {y : ExceptT ε (StateM σ) α}

theorem mono {P Q : α → σ → Prop} (hx : After x w P) (sub : ∀ a w', P a w' → Q a w') : After x w Q := sub _ _ hx

theorem of_run {a : α} {w' : σ} {Q : α → σ → Prop} (ran : x.run w = (a, w')) (h : Q a w') : After x w Q := by
  unfold After
  rw [ran]
  exact h

theorem elim {a : α} {w' : σ} {Q : α → σ → Prop} (hx : After x w Q) (ran : x.run w = (a, w')) : Q a w' := by
  unfold After at hx
  rwa [ran] at hx

theorem bind {f : α → StateM σ β} {Q : β → σ → Prop} (hx : After x w fun a w' => After (f a) w' Q) :
    After (x >>= f) w Q := hx

theorem get {f : σ → StateM σ β} {Q : β → σ → Prop} (h : After (f w) w Q) :
    After (MonadState.get >>= f) w Q := h

theorem andThen {f : α → ExceptT ε (StateM σ) β} {Q : Except ε β → σ → Prop}
    (hy : After y.run w fun result w' =>
      match result with
      | .ok a => After (f a).run w' Q
      | .error e => Q (.error e) w') :
    After (y >>= f).run w Q := by
  rw [ExceptT.run_bind]
  apply bind
  apply hy.mono
  intro result w' h
  cases result with
  | ok a => exact h
  | error e => exact h

theorem lift {f : α → ExceptT ε (StateM σ) β} {Q : Except ε β → σ → Prop}
    (hx : After x w fun a w' => After (f a).run w' Q) : After ((liftM x : ExceptT ε (StateM σ) α) >>= f).run w Q :=
  hx

theorem liftLast {Q : Except ε α → σ → Prop} (hx : After x w fun a w' => Q (.ok a) w') :
    After (liftM x : ExceptT ε (StateM σ) α).run w Q :=
  hx

theorem known {r : Except ε α} {Q : Except ε α → σ → Prop} (h : Q r w) :
    After (ExceptT.mk (pure r) : ExceptT ε (StateM σ) α).run w Q :=
  h

theorem adapt {f : ε → ε'} {Q : Except ε' α → σ → Prop}
    (hy : After y.run w fun result w' => Q (result.mapError f) w') : After (y.adapt f).run w Q :=
  hy

end After

variable {Place : Type} {v : FileMap σ Place} {w : σ} {x : StateM σ α}

theorem FileMap.Spares.of_after (hx : ∀ w, After x w fun _ w' => v.ChangedOnly w w' []) : v.Spares x := hx

theorem FileMap.Spares.elim {a : α} {w' : σ} (hx : v.Spares x) (ran : x.run w = (a, w')) : v.ChangedOnly w w' [] := by
  have same := hx w
  rwa [ran] at same

theorem FileMap.Spares.after {Q : α → σ → Prop} (hx : v.Spares x) (h : ∀ a w', v.ChangedOnly w w' [] → Q a w') :
    After x w Q :=
  h _ _ (hx w)

end

/-- File operations that act on a map of files. Each may fail, and a failed write changes nothing. -/
structure Host.Respects {σ Place : Type} (h : Host (StateM σ)) (v : FileMap σ Place) : Prop where
  stat : ∀ path, v.Spares (h.stat path)
  print : ∀ channel text, v.Spares (h.print channel text)
  now : v.Spares h.now
  read : ∀ path w, After (h.read path) w fun result w' =>
    v.ChangedOnly w w' [] ∧ ∀ bytes, result = .ok bytes → v.at? w path = some bytes
  write : ∀ path text w, After (h.write path text) w fun result w' =>
    match result with
    | .ok () => v.Written w w' path (some text)
    | .error _ => v.ChangedOnly w w' []

def Host.RefusesWrite {σ : Type} (h : Host (StateM σ)) (w : σ) (path text : String) : Prop :=
  ∃ failure, ((h.write path text).run w).1 = .error failure

/-! ## Reading and writing -/

section
variable {σ Place : Type} {v : FileMap σ Place} {h : Host (StateM σ)}

def FileMap.text? (v : FileMap σ Place) (w : σ) (path : String) : Option String :=
  (v.at? w path).bind fun bytes => String.fromUTF8? bytes

theorem FileMap.ChangedOnly.text?_eq {w w' : σ} (same : v.ChangedOnly w w' []) (path : String) :
    v.text? w' path = v.text? w path := by
  unfold text?
  rw [same.at?_eq (by simp)]

namespace Host.Respects
variable (k : h.Respects v)
include k

theorem report (r : Reporter) (e : Event) : v.Spares (h.report r e) := by
  unfold Host.report
  cases r.service with
  | none => exact .pure _
  | some service =>
    refine .bind k.now fun time => .forM ?_ _
    intro d
    cases d with
    | line channel text => exact k.print channel text
    | kept => exact .pure _

theorem readText (path : String) (w : σ) : After (h.readText path) w fun result w' =>
    v.ChangedOnly w w' [] ∧ ∀ text, result = .ok text → v.text? w path = some text := by
  unfold Host.readText
  refine .bind ((k.read path w).mono ?_)
  rintro (failure | bytes) w' ⟨same, held⟩
  · exact ⟨same, nofun⟩
  · dsimp only
    cases decoded : String.fromUTF8? bytes with
    | none => exact ⟨same, nofun⟩
    | some text =>
      refine ⟨same, ?_⟩
      rintro _ ⟨⟩
      simp [FileMap.text?, held bytes rfl, decoded]

theorem refuse {α : Type} (r : Reporter) (e : LoadError) (message : String) (details : List (String × String))
    (w : σ) : After (SourceFile.refuse h r e message details : ExceptT LoadError (StateM σ) α).run w
      fun result w' => v.ChangedOnly w w' [] ∧ result = .error e :=
  .lift ((k.report r _).after fun _ _ same => ⟨same, rfl⟩)

theorem refuse_spares {α : Type} (r : Reporter) (e : LoadError) (message : String)
    (details : List (String × String)) :
    v.Spares (SourceFile.refuse h r e message details : ExceptT LoadError (StateM σ) α).run :=
  .of_after fun w => (k.refuse r e message details w).mono fun _ _ refused => refused.1

theorem inspect (r : Reporter) (path : String) : v.Spares (SourceFile.inspect h r path).run := by
  unfold SourceFile.inspect
  split
  · exact k.refuse_spares _ _ _ _
  · apply FileMap.Spares.lift_bind (k.stat path)
    intro found
    cases found with
    | error => exact k.refuse_spares _ _ _ _
    | ok info =>
      dsimp only
      split
      · exact k.refuse_spares _ _ _ _
      · split
        · exact k.refuse_spares _ _ _ _
        · exact .pure _

theorem load (r : Reporter) (quiet : Bool) (path : String) (w : σ) :
    After (SourceFile.load h r quiet path).run w fun result w' =>
      v.ChangedOnly w w' [] ∧ ∀ file, result = .ok file → v.text? w path = some file.text := by
  unfold SourceFile.load
  refine .lift (k.now.after fun start w₁ same₁ => ?_)
  refine .lift ((k.report _ _).after fun _ w₂ same₂ => ?_)
  refine .andThen ((k.inspect r path).after fun size w₃ same₃ => ?_)
  have same := (same₁.trans same₂).trans same₃
  cases size with
  | error => exact ⟨same, nofun⟩
  | ok size =>
    refine .lift ((k.readText path w₃).mono ?_)
    rintro (failure | text) w₄ ⟨same₄, held⟩
    · refine (k.refuse _ _ _ _ w₄).mono ?_
      rintro _ w₅ ⟨same₅, rfl⟩
      exact ⟨(same.trans same₄).trans same₅, nofun⟩
    · have found : v.text? w path = some text := by rw [← same.text?_eq]; exact held text rfl
      refine .lift (k.now.after fun stop w₅ same₅ => ?_)
      have same' := (same.trans same₄).trans same₅
      cases quiet with
      | true => exact ⟨same', by rintro _ ⟨⟩; exact found⟩
      | false => exact .lift ((k.report _ _).after fun _ w₆ same₆ => ⟨same'.trans same₆, by rintro _ ⟨⟩; exact found⟩)

end Host.Respects

end

/-! ## Files in memory -/

theorem exists_of_bind_ok {ε α β : Type} {x : Except ε α} {f : α → Except ε β} {b : β} (h : x >>= f = .ok b) :
    ∃ a, x = .ok a ∧ f a = .ok b := by
  cases x with
  | error e => cases h
  | ok a => exact ⟨a, rfl, h⟩

namespace Store
variable {s : Store} {l k : Location}

/-- The location that a path names, whether there is anything or not. -/
def place? (s : Store) (path : String) : Option Location :=
  if (refused? path).isSome then none else (s.follow (s.origin path) (parts path)).toOption

theorem follow_append (s : Store) (l : Location) (ps qs : List String) :
    s.follow l (ps ++ qs) = s.follow l ps >>= fun k => s.follow k qs := by
  induction ps generalizing l with
  | nil => rfl
  | cons part ps ih =>
    rw [List.cons_append, follow, follow]
    split
    · rfl
    · rfl
    · split
      · exact ih l
      · split
        · exact ih _
        · split
          · rfl
          · exact ih _

theorem ne_nil_of_get? (h : s.get? l ≠ some .directory) : l ≠ [] := by
  rintro rfl
  exact h rfl

/-- Nothing leads through a file, so a new one is on no path but its own. -/
theorem follow_put (h : s.get? l ≠ some .directory) (content : ByteArray) (k : Location) (ps : List String) :
    ((s.put l (.file content)).follow k ps).toOption = (s.follow k ps).toOption := by
  induction ps generalizing k with
  | nil => rfl
  | cons part ps ih =>
    rw [follow, follow]
    by_cases same : k = l
    · subst same
      rw [get?_put_self s _ (ne_nil_of_get? h)]
      cases there : s.get? k with
      | none => rfl
      | some entry =>
        cases entry with
        | file => rfl
        | directory => exact absurd there h
    · rw [get?_put_of_ne s _ same]
      split
      · rfl
      · rfl
      · split
        · exact ih k
        · split
          · exact ih _
          · split
            · rfl
            · exact ih _

theorem place?_put (h : s.get? l ≠ some .directory) (content : ByteArray) :
    (s.put l (.file content)).place? = s.place? := by
  funext path
  unfold place?
  split
  · rfl
  · exact follow_put h content _ _

theorem content?_put_self (h : l ≠ []) (content : ByteArray) :
    (s.put l (.file content)).content? l = some content := by
  unfold content?
  rw [get?_put_self s _ h]

theorem content?_put_of_ne (h : k ≠ l) (e : Entry) : (s.put l e).content? k = s.content? k := by
  unfold content?
  rw [get?_put_of_ne s e h]

theorem place?_of_find {path : String} {entry : Entry} (h : s.find path = .ok (l, entry)) :
    s.place? path = some l ∧ s.get? l = some entry := by
  unfold find at h
  unfold place?
  cases refused : refused? path with
  | some failure =>
    rw [refused] at h
    cases h
  | none =>
    rw [refused] at h
    obtain ⟨k, led, h⟩ := exists_of_bind_ok h
    rw [led]
    split at h
    · cases h
    · split at h
      · cases h
      · cases h
        exact ⟨rfl, ‹_›⟩
    · cases h
      exact ⟨rfl, ‹_›⟩

theorem place?_of_target {path : String} (h : s.target path = .ok l) :
    s.place? path = some l ∧ s.get? l ≠ some .directory := by
  unfold target at h
  unfold place?
  cases refused : refused? path with
  | some failure =>
    rw [refused] at h
    cases h
  | none =>
    rw [refused] at h
    dsimp only at h
    split at h
    · cases h
    · next last final =>
      obtain ⟨parent, led, h⟩ := exists_of_bind_ok h
      split at h
      · cases h
      · cases h
      · split at h
        · cases h
        · obtain ⟨k, reached, h⟩ := exists_of_bind_ok h
          split at h
          · cases h
          · next free =>
            cases h
            rw [← List.dropLast_append_getLast? last final, follow_append, led]
            change (s.follow parent [last]).toOption = some l ∧ _
            rw [reached]
            exact ⟨rfl, free⟩

end Store

def World.files : FileMap World Location where
  place? w := w.store.place?
  content? w := w.store.content?

theorem World.write_written {w : World} {path text : String} {store : Store} (h : w.store.write path text = .ok store) :
    World.files.Written w { w with store } path (some text) := by
  unfold Store.write at h
  split at h
  · next l there =>
    cases h
    obtain ⟨named, free⟩ := Store.place?_of_target there
    have kept := Store.place?_put free text.toUTF8
    refine ⟨⟨kept, ?_⟩, ?_⟩
    · intro k apart
      apply Store.content?_put_of_ne
      rintro rfl
      exact apart path (by simp) named
    · change ((w.store.put l (.file text.toUTF8)).place? path).bind _ = _
      rw [kept, named]
      exact Store.content?_put_self (Store.ne_nil_of_get? free) _
  · cases h

theorem World.read_at? {w : World} {path : String} {bytes : ByteArray} (h : w.store.read path = .ok bytes) :
    World.files.at? w path = some bytes := by
  unfold Store.read at h
  split at h
  · next l content there =>
    cases h
    obtain ⟨named, held⟩ := Store.place?_of_find there
    change (w.store.place? path).bind w.store.content? = _
    rw [named]
    change w.store.content? l = _
    unfold Store.content?
    rw [held]
  · cases h
  · cases h

theorem World.host_respects (time : Instant) : (World.host time).Respects World.files where
  stat _ _ := .refl
  print channel _ _ := by
    cases channel with
    | out => exact ⟨rfl, fun _ _ => rfl⟩
    | err => exact ⟨rfl, fun _ _ => rfl⟩
  now _ := .refl
  read _ _ := ⟨.refl, fun _ => World.read_at?⟩
  write path text w := by
    refine .get ?_
    cases tried : w.store.write path text with
    | error failure => exact .refl
    | ok store => exact World.write_written tried

end CSubset

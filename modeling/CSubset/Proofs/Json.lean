import CSubset.Json.Read

/-!
# Reading what was written

A value made of texts and objects is read off the characters it is written with, whatever follows them
(`Textual.exists_written`). So a text that was written from such a value gives that value back (`parse?_compact`).
-/

namespace CSubset

namespace Json

/-! ## Texts -/

theorem readString_number {a b c d : Char} {n : Nat} (h : hexNumber? [a, b, c, d] = some n) (small : n < 0xD800)
    (done rest : List Char) :
    readString true none done ('\\' :: 'u' :: a :: b :: c :: d :: rest) =
      readString true none (Char.ofNat n :: done) rest := by
  have low : isLowSurrogate n = false := decide_eq_false (by omega)
  have high : isHighSurrogate n = false := decide_eq_false (by omega)
  rw [readString.eq_def]
  simp only [h, low, high, Bool.false_eq_true, if_false]

theorem readString_plain {c : Char} (quote : c ≠ '"') (slash : c ≠ '\\') (h : ¬c.toNat < 0x20) (done rest : List Char) :
    readString true none done (c :: rest) = readString true none (c :: done) rest := by
  rw [readString.eq_def]
  split
  · simp_all
  · simp_all
  · simp_all
  · simp_all
  · next same =>
    cases same
    exact if_neg h

def controlText (n : Nat) : List Char := ((if n < 0x10 then "\\u000" else "\\u00") ++ hexText n).toList

theorem controlText_eq : ∀ n < 0x20,
    controlText n = ['\\', 'u', '0', '0', Nat.digitChar (n / 16), Nat.digitChar (n % 16)] ∧
      hexNumber? ['0', '0', Nat.digitChar (n / 16), Nat.digitChar (n % 16)] = some n := by
  decide +kernel

theorem readString_control {c : Char} (h : c.toNat < 0x20) (done rest : List Char) :
    readString true none done (controlText c.toNat ++ rest) = readString true none (c :: done) rest := by
  obtain ⟨digits, number⟩ := controlText_eq c.toNat h
  have read := readString_number number (by omega) done rest
  rw [Char.ofNat_toNat] at read
  rw [digits]
  exact read

theorem readString_escapeChar (done : List Char) (c : Char) (rest : List Char) :
    readString true none done ((escapeChar c).toList ++ rest) = readString true none (c :: done) rest := by
  unfold escapeChar
  by_cases quote : c = '"'
  · subst quote; rfl
  by_cases slash : c = '\\'
  · subst slash; rfl
  rw [if_neg quote, if_neg slash]
  split
  · subst c; rfl
  split
  · subst c; rfl
  split
  · subst c; rfl
  split
  · subst c; rfl
  split
  · subst c; rfl
  split
  · next control => exact readString_control control done rest
  · next plain =>
    have alone : c.toString.toList = [c] := by simp
    rw [alone]
    exact readString_plain quote slash plain done rest

def escapedText (cs : List Char) : List Char := cs.flatMap fun c => (escapeChar c).toList

theorem readString_escapedText (done cs rest : List Char) :
    readString true none done (escapedText cs ++ '"' :: rest) =
      some (string (String.ofList (done.reverse ++ cs)), rest) := by
  induction cs generalizing done with
  | nil =>
    rw [List.append_nil]
    rfl
  | cons c cs ih =>
    rw [escapedText, List.flatMap_cons, List.append_assoc, readString_escapeChar, ← escapedText, ih]
    simp

def quotedText (text : String) : List Char := '"' :: (escapedText text.toList ++ ['"'])

theorem readString_quotedText (text : String) (rest : List Char) :
    readString true none [] (escapedText text.toList ++ '"' :: rest) = some (string text, rest) := by
  rw [readString_escapedText]
  simp

theorem toList_putText (out text : String) : (putText out text).toList = out.toList ++ quotedText text := by
  have put : ∀ (cs : List Char) (out : String),
      (cs.foldl (fun out c => out ++ escapeChar c) out).toList = out.toList ++ escapedText cs := by
    intro cs
    induction cs with
    | nil => simp [escapedText]
    | cons c cs ih =>
      intro out
      rw [List.foldl_cons, ih]
      simp [escapedText]
  unfold putText
  rw [String.toList_append, put]
  simp [quotedText]

/-! ## Values -/

/-- The characters that a value is written with, and from which it is read whatever follows. -/
structure Written (j : Json) (cs : List Char) : Prop where
  put : ∀ out, (putCompact out j).toList = out.toList ++ cs
  read : ∀ fuel rest, cs.length ≤ fuel → readValue fuel (cs ++ rest) = some (j, rest)

/-- The same for fields. Reading them puts their names and values behind those that were read before. -/
structure WrittenFields (fields : List (String × Json)) (cs : List Char) : Prop where
  put : ∀ out lead, (putCompactFields out lead fields).toList = out.toList ++ (lead.toList ++ cs)
  read : ∀ fuel names values rest, cs.length < fuel → readFields fuel names values (cs ++ '}' :: rest) =
    some (objectOf (names.reverse ++ fields.map fun p => string p.1) (values.reverse ++ fields.map (·.2)), rest)

theorem written_string (text : String) : Written (string text) (quotedText text) where
  put out := toList_putText out text
  read fuel rest enough := by
    cases fuel with
    | zero => simp [quotedText] at enough
    | succ fuel =>
      have := readString_quotedText text rest
      simpa [quotedText, readValue, skipBlanks] using this

theorem objectOf_names (fields : List (String × Json)) :
    objectOf (fields.map fun p => string p.1) (fields.map (·.2)) = object fields := by
  have names : ∀ fields : List (String × Json),
      (fields.map fun p => string p.1).mapM text? = some (fields.map (·.1)) := by
    intro fields
    induction fields with
    | nil => rfl
    | cons p fields ih => simp [text?, ih]
  unfold objectOf
  rw [names]
  simp [List.zip_map']

theorem toList_putField (out lead name : String) (value : Json) {cs : List Char} (h : Written value cs) :
    (putCompact (putText (out ++ lead) name ++ ":") value).toList =
      out.toList ++ (lead.toList ++ (quotedText name ++ ':' :: cs)) := by
  rw [h.put, String.toList_append, toList_putText]
  simp

section
variable {name : String} {value : Json} {cs : List Char} (h : Written value cs)

include h in
theorem readFields_last {fuel : Nat} (enough : cs.length ≤ fuel) (names values : List Json) (rest : List Char) :
    readFields (fuel + 1) names values (quotedText name ++ ':' :: (cs ++ '}' :: rest)) =
      some (objectOf (string name :: names).reverse (value :: values).reverse, rest) := by
  have read := readString_quotedText name (':' :: (cs ++ '}' :: rest))
  simp [quotedText, readFields, skipBlanks, read, h.read fuel _ enough]

include h in
theorem readFields_next {fuel : Nat} (enough : cs.length ≤ fuel) (names values : List Json) (rest : List Char) :
    readFields (fuel + 1) names values (quotedText name ++ ':' :: (cs ++ ',' :: rest)) =
      readFields fuel (string name :: names) (value :: values) rest := by
  have read := readString_quotedText name (':' :: (cs ++ ',' :: rest))
  simp [quotedText, readFields, skipBlanks, read, h.read fuel _ enough]

end

theorem WrittenFields.single {name : String} {value : Json} {cs : List Char} (h : Written value cs) :
    WrittenFields [(name, value)] (quotedText name ++ ':' :: cs) where
  put out lead := toList_putField out lead name value h
  read fuel names values rest enough := by
    cases fuel with
    | zero => exact absurd enough (Nat.not_lt_zero _)
    | succ fuel =>
      have fits : cs.length ≤ fuel := by
        simp at enough
        omega
      rw [List.append_assoc, List.cons_append, readFields_last h fits]
      simp

theorem WrittenFields.cons {name : String} {value : Json} {cs more : List Char} {fields : List (String × Json)}
    (h : Written value cs) (others : WrittenFields fields more) :
    WrittenFields ((name, value) :: fields) (quotedText name ++ ':' :: (cs ++ ',' :: more)) where
  put out lead := by
    rw [putCompactFields, others.put, toList_putField out lead name value h]
    simp
  read fuel names values rest enough := by
    cases fuel with
    | zero => exact absurd enough (Nat.not_lt_zero _)
    | succ fuel =>
      simp at enough
      rw [List.append_assoc, List.cons_append, List.append_assoc, List.cons_append, readFields_next h (by omega),
        others.read _ _ _ _ (by omega)]
      simp

theorem written_object_nil : Written (object []) ['{', '}'] where
  put out := by simp [putCompact, putCompactFields]
  read fuel rest enough := by
    cases fuel with
    | zero => simp at enough
    | succ fuel => rfl

theorem WrittenFields.object {fields : List (String × Json)} {cs : List Char} (h : WrittenFields fields cs)
    (quote : cs.head? = some '"') : Written (object fields) ('{' :: (cs ++ ['}'])) where
  put out := by
    rw [putCompact, String.toList_append, h.put]
    simp
  read fuel rest enough := by
    cases fuel with
    | zero => simp at enough
    | succ fuel =>
      obtain ⟨body, rfl⟩ := List.head?_eq_some_iff.mp quote
      have fits : ('"' :: body).length < fuel := by
        simp at enough ⊢
        omega
      have read := h.read fuel [] [] rest fits
      simp only [List.reverse_nil, List.nil_append, objectOf_names] at read
      simpa [readValue, skipBlanks] using read

inductive Textual : Json → Prop
  | string (text : String) : Textual (string text)
  | object {fields : List (String × Json)} (h : ∀ p ∈ fields, Textual p.2) : Textual (object fields)

theorem exists_writtenFields {p : String × Json} {fields : List (String × Json)}
    (h : ∀ q ∈ p :: fields, ∃ cs, Written q.2 cs) :
    ∃ cs, WrittenFields (p :: fields) cs ∧ cs.head? = some '"' := by
  induction fields generalizing p with
  | nil =>
    obtain ⟨cs, hcs⟩ := h p List.mem_cons_self
    exact ⟨_, .single hcs, rfl⟩
  | cons q fields ih =>
    obtain ⟨cs, hcs⟩ := h p List.mem_cons_self
    obtain ⟨more, others, -⟩ := ih fun r hr => h r (List.mem_cons_of_mem _ hr)
    exact ⟨_, .cons hcs others, rfl⟩

theorem Textual.exists_written {j : Json} (h : Textual j) : ∃ cs, Written j cs := by
  induction h with
  | string text => exact ⟨_, written_string text⟩
  | @object fields _ ih =>
    cases fields with
    | nil => exact ⟨_, written_object_nil⟩
    | cons p fields =>
      obtain ⟨cs, hcs, quote⟩ := exists_writtenFields ih
      exact ⟨_, hcs.object quote⟩

theorem parse?_compact {j : Json} (h : Textual j) : parse? j.compact = some j := by
  obtain ⟨cs, hcs⟩ := h.exists_written
  have text : j.compact.toList = cs := hcs.put ""
  have read := hcs.read (cs.length + 1) [] (Nat.le_succ _)
  rw [List.append_nil] at read
  unfold parse?
  rw [text]
  simp [read, skipBlanks]

end Json

end CSubset

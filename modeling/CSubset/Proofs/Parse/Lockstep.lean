import CSubset.Proofs.Parse.Later
import CSubset.Proofs.Parse.Simulation
import Mathlib.Data.List.Forall2

/-!
# Two runs of the parser

The second run has the tokens of the first, perhaps with other spans, and perhaps with more tokens behind them. As long
as the first has not met the end of its input, both do the same (`Lockstep`). There they may part, and then the first
can only report where its input ends (`Parted`). `parse_follows` says so of the parser as a whole.
-/

namespace CSubset

/-- How the input of a second run differs from that of a first. -/
structure Variation where
  /-- Which span of the second run may stand for a span of the first. -/
  spans : Span → Span → Prop
  merge {a b a' b' : Span} : spans a a' → spans b b' → spans (a.merge b) (a'.merge b')
  /-- What only the second run has, behind everything else. -/
  more : List Token
  size : Nat

open ParseState

namespace Variation

variable (v : Variation)

structure LikeToken (t u : Token) : Prop where
  lexeme : t.lexeme = u.lexeme
  index : t.index = u.index
  kind : t.kind = u.kind
  span : v.spans t.span u.span

/-- Where the first run is at its end, the places that reports are about need not fit. -/
structure LikeReport (d e : Diagnostic) : Prop where
  cause : d.cause = e.cause
  position : d.position = e.position
  span : d.position < v.size → Option.Rel v.spans d.span e.span

inductive LikeStep : Step → Step → Prop
  | peek {t u : Option Token} (h : Option.Rel v.LikeToken t u) : LikeStep (.peek t) (.peek u)
  | peekAhead (n : Nat) {t u : Option Token} (h : Option.Rel v.LikeToken t u) :
      LikeStep (.peekAhead n t) (.peekAhead n u)
  | next {t u : Option Token} (h : Option.Rel v.LikeToken t u) : LikeStep (.next t) (.next u)
  | report {d e : Diagnostic} (h : v.LikeReport d e) : LikeStep (.report d) (.report e)
  | note (text : String) : LikeStep (.note text) (.note text)
  | emit (f : Fragment) : LikeStep (.emit f) (.emit f)

structure Lockstep (s s' : ParseState) : Prop where
  rest : ∃ ts, List.Forall₂ v.LikeToken s.rest ts ∧ s'.rest = ts ++ v.more
  left : s.cursor.position + s.rest.length = v.size
  position : s.cursor.position = s'.cursor.position
  declared : ∀ name, s.symbols.lookup name = s'.symbols.lookup name
  steps : List.Forall₂ v.LikeStep s.journal s'.journal

/-- The first run is at its end, where the second still had something to read. What the first reported before it came to
its end, the second reported too. -/
structure Parted (s s' : ParseState) : Prop where
  more : v.more ≠ []
  ended : v.size ≤ s.cursor.position
  reports : ∃ ds es fs, s.diagnostics = ds ++ es ∧ (∀ e ∈ es, v.size ≤ e.position) ∧
    List.Forall₂ v.LikeReport ds fs ∧ fs <+: s'.diagnostics

def SameHead (s s' : ParseState) : Prop :=
  (s.rest.head? = none ∧ s'.rest.head? = none) ∨
    ∃ t u, s.rest.head? = some t ∧ s'.rest.head? = some u ∧ v.LikeToken t u

def Follows (s s' : ParseState) : Prop := v.Lockstep s s' ∨ v.Parted s s'

variable {v} {s s' : ParseState}

/-! ## Steps that both runs make -/

theorem Parted.later (p : v.Parted s s') {g g' : ParseState} (m : Later s g)
    (m' : s'.diagnostics <+: g'.diagnostics) : v.Parted g g' := by
  obtain ⟨more, ended, ds, es, fs, split, late, like, front⟩ := p
  obtain ⟨position, new, added, newLate⟩ := m
  refine ⟨more, Nat.le_trans ended position, ds, es ++ new, fs, ?_, ?_, like, front.trans m'⟩
  · rw [added, split, List.append_assoc]
  · intro e he
    rcases List.mem_append.mp he with he | he
    · exact late e he
    · exact Nat.le_trans ended (newLate e he)

theorem LikeStep.diagnostic? {a b : Step} (h : v.LikeStep a b) :
    Option.Rel v.LikeReport a.diagnostic? b.diagnostic? := by
  cases h with
  | report h => exact .some h
  | _ => exact .none

theorem LikeToken.hasText_eq {t u : Token} (like : v.LikeToken t u) (text : String) :
    u.hasText text = t.hasText text := by
  rw [Token.hasText, Token.hasText, like.lexeme]

theorem LikeToken.isKeyword_eq {t u : Token} (like : v.LikeToken t u) (k : Keyword) :
    Criteria.byClass.isKeyword k u = Criteria.byClass.isKeyword k t := by
  simp only [Criteria.byClass, Token.isKeyword, like.kind]

theorem SameHead.rel (h : v.SameHead s s') : Option.Rel v.LikeToken s.rest.head? s'.rest.head? := by
  rcases h with ⟨h, h'⟩ | ⟨t, u, h, h', like⟩
  · rw [h, h']
    exact .none
  · rw [h, h']
    exact .some like

theorem SameHead.of_nil (same : v.SameHead s s') (h : s.rest = []) : s'.rest = [] := by
  rcases same with ⟨-, h'⟩ | ⟨t, u, first, -, -⟩
  · exact List.head?_eq_none_iff.mp h'
  · rw [h] at first
    cases first

theorem SameHead.of_cons (same : v.SameHead s s') {t : Token} {ts : List Token} (h : s.rest = t :: ts) :
    ∃ u us, s'.rest = u :: us ∧ v.LikeToken t u := by
  rcases same with ⟨none, -⟩ | ⟨t', u, first, h', like⟩
  · rw [h] at none
    cases none
  · obtain ⟨us, h'⟩ := List.head?_eq_some_iff.mp h'
    rw [h, List.head?_cons, Option.some.injEq] at first
    exact ⟨u, us, h', first ▸ like⟩

theorem SameHead.any_hasText (same : v.SameHead s s') (text : String) :
    s'.rest.head?.any (·.hasText text) = s.rest.head?.any (·.hasText text) := by
  rcases same with ⟨h, h'⟩ | ⟨t, u, h, h', like⟩
  · rw [h, h']
  · rw [h, h', Option.any_some, Option.any_some, like.hasText_eq]

namespace Lockstep

theorem diagnostics (l : v.Lockstep s s') : List.Forall₂ v.LikeReport s.diagnostics s'.diagnostics :=
  List.rel_filterMap (fun _ _ h => h.diagnostic?) (List.rel_reverse l.steps)

theorem parted (l : v.Lockstep s s') (h : s.rest = []) (more : v.more ≠ []) : v.Parted s s' := by
  have ended := l.left
  rw [h] at ended
  exact ⟨more, Nat.le_of_eq ended.symm, s.diagnostics, [], s'.diagnostics, (List.append_nil _).symm, by simp,
    l.diagnostics, List.prefix_refl _⟩

theorem head (l : v.Lockstep s s') : v.SameHead s s' ∨ v.Parted s s' := by
  obtain ⟨ts, like, rest⟩ := l.rest
  cases h : s.rest with
  | nil =>
    by_cases more : v.more = []
    · rw [h, List.forall₂_nil_left_iff] at like
      exact Or.inl (Or.inl ⟨by rw [h]; rfl, by rw [rest, like, more]; rfl⟩)
    · exact Or.inr (l.parted h more)
  | cons t ts =>
    rw [h, List.forall₂_cons_left_iff] at like
    obtain ⟨u, us, first, -, rfl⟩ := like
    exact Or.inl (Or.inr ⟨t, u, by rw [h]; rfl, by rw [rest]; rfl, first⟩)

theorem log (l : v.Lockstep s s') {a b : Step} (h : v.LikeStep a b) : v.Lockstep (s.log a) (s'.log b) :=
  ⟨l.rest, l.left, l.position, l.declared, .cons h l.steps⟩

theorem declare (l : v.Lockstep s s') (name : String) (type : DataType) (a b : Span) :
    v.Lockstep (s.declare name type a) (s'.declare name type b) := by
  refine ⟨l.rest, l.left, l.position, ?_, l.steps⟩
  intro other
  rw [symbols_declare, symbols_declare, SymbolTable.lookup_declare, SymbolTable.lookup_declare, l.declared]

theorem reportAt (l : v.Lockstep s s') (cause : Cause) {a b : Span} (h : v.spans a b) :
    v.Lockstep (s.report cause a) (s'.report cause b) :=
  l.log (.report ⟨rfl, l.position, fun _ => .some h⟩)

theorem reportEnd (l : v.Lockstep s s') (cause : Cause) (h : s.rest = []) (a b : Option Span) :
    v.Lockstep (s.report cause a) (s'.report cause b) := by
  refine l.log (.report ⟨rfl, l.position, fun early => ?_⟩)
  have ended := l.left
  rw [h] at ended
  exact absurd early (Nat.not_lt.mpr (Nat.le_of_eq ended.symm))

theorem peek (l : v.Lockstep s s') (same : v.SameHead s s') : v.Lockstep s.peek s'.peek := l.log (.peek same.rel)

theorem next (l : v.Lockstep s s') (same : v.SameHead s s') : v.Lockstep s.next s'.next := by
  obtain ⟨ts, like, rest⟩ := l.rest
  have steps : List.Forall₂ v.LikeStep s.next.journal s'.next.journal := .cons (.next same.rel) l.steps
  rcases same with ⟨h, h'⟩ | ⟨t, u, h, h', -⟩
  · rw [List.head?_eq_none_iff] at h h'
    refine ⟨⟨[], by simp [h], ?_⟩, ?_, ?_, l.declared, steps⟩
    · rw [rest_next, h']
      rw [h'] at rest
      exact (List.append_eq_nil_iff.mp rest.symm).2.symm
    · have := l.left
      rw [position_next_of_nil h, rest_next, h]
      rwa [h] at this
    · rw [position_next_of_nil h, position_next_of_nil h', l.position]
  · obtain ⟨ts, h⟩ := List.head?_eq_some_iff.mp h
    obtain ⟨us, h'⟩ := List.head?_eq_some_iff.mp h'
    rw [h, List.forall₂_cons_left_iff] at like
    obtain ⟨u, us, -, like, rfl⟩ := like
    refine ⟨⟨us, by rwa [rest_next, h], by rw [rest_next, rest]; rfl⟩, ?_, ?_, l.declared, steps⟩
    · have := l.left
      rw [h, List.length_cons] at this
      rw [position_next_of_cons h, rest_next, h, List.tail_cons]
      omega
    · rw [position_next_of_cons h, position_next_of_cons h', l.position]

end Lockstep

namespace Follows

theorem both (f : v.Follows s s') {g g' : ParseState} (m : Later s g) (m' : Later s' g')
    (h : v.Lockstep s s' → v.Lockstep g g') : v.Follows g g' := by
  rcases f with l | p
  · exact Or.inl (h l)
  · exact Or.inr (p.later m m'.grows)

/-- What both runs do after a look at their input. As long as they have not parted, they see the same token. -/
theorem observe (f : v.Follows s s') {g g' : ParseState} (m : Later s g) (m' : Later s' g')
    (h : v.Lockstep s s' → v.SameHead s s' → v.Follows g g') : v.Follows g g' := by
  rcases f with l | p
  · rcases l.head with same | p
    · exact h l same
    · exact Or.inr (p.later m m'.grows)
  · exact Or.inr (p.later m m'.grows)

theorem note (f : v.Follows s s') (text : String) : v.Follows (s.note text) (s'.note text) :=
  f.both ((Later.refl s).note text) ((Later.refl s').note text) fun l => l.log (.note text)

theorem emit (f : v.Follows s s') (x : Fragment) : v.Follows (s.emit x) (s'.emit x) :=
  f.both ((Later.refl s).emit x) ((Later.refl s').emit x) fun l => l.log (.emit x)

theorem reportAt (f : v.Follows s s') (cause : Cause) {a b : Span} (h : v.spans a b) :
    v.Follows (s.report cause a) (s'.report cause b) :=
  f.both ((Later.refl s).report cause a) ((Later.refl s').report cause b) fun l => l.reportAt cause h

theorem next (f : v.Follows s s') : v.Follows s.next s'.next :=
  f.observe (Later.refl s).next (Later.refl s').next fun l same => Or.inl (l.next same)

theorem expect (f : v.Follows s s') (want : String) : v.Follows (s.expect want) (s'.expect want) := by
  apply f.observe ((Later.refl s).expect want) ((Later.refl s').expect want)
  intro l same
  have taken := l.next same
  unfold ParseState.expect
  rw [cursor_peek, cursor_peek]
  rcases same with ⟨h, h'⟩ | ⟨t, u, h, h', like⟩
  · rw [h, h']
    exact Or.inl (taken.reportEnd _ (rest_next_of_none h) _ _)
  · rw [h, h', Option.any_some, Option.any_some, like.hasText_eq]
    by_cases wanted : t.hasText want
    · rw [if_pos wanted, if_pos wanted]
      exact Or.inl taken
    · rw [if_neg wanted, if_neg wanted]
      have cause : mismatch want (some u) = mismatch want (some t) := by simp [mismatch, like.lexeme]
      rw [cause]
      exact Or.inl (taken.reportAt _ like.span)

theorem foldl_expect (f : v.Follows s s') (wants : List String) :
    v.Follows (wants.foldl ParseState.expect s) (wants.foldl ParseState.expect s') := by
  induction wants generalizing s s' with
  | nil => exact f
  | cons want wants ih => exact ih (f.expect want)

end Follows

theorem Lockstep.takeUpTo (l : v.Lockstep s s') {stop : Token → Bool}
    (byText : ∀ t u : Token, t.lexeme = u.lexeme → stop t = stop u) :
    (List.Forall₂ v.LikeToken (s.upTo stop) (s'.upTo stop) ∧ v.Lockstep (s.takeUpTo stop) (s'.takeUpTo stop) ∧
        v.SameHead (s.takeUpTo stop) (s'.takeUpTo stop)) ∨
      v.Parted (s.takeUpTo stop) (s'.takeUpTo stop) := by
  rcases l.head with same | p
  swap
  · exact Or.inr (p.later ((Later.refl s).takeUpTo stop) ((Later.refl s').takeUpTo stop).grows)
  have looked := l.peek same
  -- the tokens are taken one by one, so the induction is on how many the first run has left
  generalize left : s.rest = ts
  induction ts generalizing s s' with
  | nil =>
    obtain ⟨none, taken⟩ := takeUpTo_of_stop (s := s) stop (by rw [left]; rfl)
    obtain ⟨none', taken'⟩ := takeUpTo_of_stop (s := s') stop (by rw [same.of_nil left]; rfl)
    rw [none, none', taken, taken']
    exact Or.inl ⟨.nil, looked, same⟩
  | cons t ts ih =>
    obtain ⟨u, us, left', like⟩ := same.of_cons left
    have stops : stop u = stop t := (byText t u like.lexeme).symm
    by_cases st : stop t
    · obtain ⟨none, taken⟩ := takeUpTo_of_stop (s := s) stop (by rw [left]; exact st)
      obtain ⟨none', taken'⟩ := takeUpTo_of_stop (s := s') stop (by rw [left']; exact stops.trans st)
      rw [none, none', taken, taken']
      exact Or.inl ⟨.nil, looked, same⟩
    · rw [Bool.not_eq_true] at st
      obtain ⟨more, taken⟩ := takeUpTo_of_go left st
      obtain ⟨more', taken'⟩ := takeUpTo_of_go left' (stops.trans st)
      rw [more, more', taken, taken']
      have after := looked.next same
      rcases after.head with same' | p
      · rcases ih after same' (after.peek same') (by simp [left]) with ⟨likes, rest⟩ | p
        · exact Or.inl ⟨.cons like likes, rest⟩
        · exact Or.inr p
      · exact Or.inr (p.later ((Later.refl _).takeUpTo stop) ((Later.refl _).takeUpTo stop).grows)

/-! ## Statements -/

theorem joinLexemes_eq {ts us : List Token} (h : List.Forall₂ v.LikeToken ts us) :
    Token.joinLexemes ts = Token.joinLexemes us := by
  unfold Token.joinLexemes
  congr 1
  induction h with
  | nil => rfl
  | cons like _ ih => rw [List.map_cons, List.map_cons, like.lexeme, ih]

theorem contains_eq (l : v.Lockstep s s') (name : String) : s.symbols.contains name = s'.symbols.contains name := by
  rw [SymbolTable.contains_eq_isSome_lookup, SymbolTable.contains_eq_isSome_lookup, l.declared]

theorem Lockstep.judge (l : v.Lockstep s s') {ts us : List Token} (h : List.Forall₂ v.LikeToken ts us) :
    v.Lockstep (s.judge .byClass ts) (s'.judge .byClass us) := by
  have text := joinLexemes_eq h
  cases h with
  | nil => exact l
  | @cons t u ts us like more =>
    have shape : isAssignment .byClass (u :: us) = isAssignment .byClass (t :: ts) := by
      cases more with
      | nil => rfl
      | cons eq more =>
        cases more with
        | nil => rfl
        | cons _ _ =>
          simp [isAssignment, Criteria.byClass, Token.isWordlike, Token.hasText, like.kind, eq.lexeme]
    have value : Token.joinLexemes us.tail = Token.joinLexemes ts.tail := by
      cases more with
      | nil => rfl
      | cons _ more => exact (joinLexemes_eq more).symm
    unfold ParseState.judge
    dsimp only
    rw [shape, ← contains_eq l, ← like.lexeme, ← text, value]
    split
    · split
      · exact (l.log (.note _)).log (.emit _)
      · exact l.reportAt _ like.span
    · exact l.reportAt _ like.span

theorem Lockstep.declarationEnd (l : v.Lockstep s s') {type type' name name' : Token} (ht : v.LikeToken type type')
    (hn : v.LikeToken name name') : v.Follows (s.declarationEnd type name) (s'.declarationEnd type' name') := by
  apply Follows.observe (Or.inl l) ((Later.refl s).declarationEnd type name) ((Later.refl s').declarationEnd type' name')
  intro l same
  have looked := l.peek same
  have assigned := same.any_hasText "="
  by_cases given : s.rest.head?.any (·.hasText "=")
  · apply Follows.observe (Or.inl (looked.next same)) (declarationEnd_later given type name)
      (declarationEnd_later (assigned.trans given) type' name')
    intro l same
    have taken := l.next same
    simp only [ParseState.declarationEnd, cursor_peek, rest_peek, given, assigned.trans given, ite_true, ← ht.lexeme,
      ← hn.lexeme]
    rcases same with ⟨h, h'⟩ | ⟨t, u, h, h', like⟩
    · rw [h, h']
      exact Or.inl (taken.reportEnd _ (rest_next_of_none h) _ _)
    · rw [h, h']
      dsimp only
      rw [← like.lexeme]
      exact ((Follows.expect (Or.inl taken) ";").note _).emit _
  · simp only [ParseState.declarationEnd, cursor_peek, rest_peek, given, assigned, ← ht.lexeme, ← hn.lexeme]
    have ended := (Follows.expect (Or.inl looked) ";").note
      ("Recognized declaration: " ++ type.lexeme ++ " " ++ name.lexeme)
    cases DataType.ofName? type.lexeme with
    | some d => exact ended.emit _
    | none => exact (ended.reportAt _ ht.span).emit _

theorem Follows.declaration (f : v.Follows s s') : v.Follows s.declaration s'.declaration := by
  apply f.observe (declaration_moves s).later (declaration_moves s').later
  intro l same
  have taken := l.next same
  rcases same with ⟨h, h'⟩ | ⟨type, type', h, h', ht⟩
  · simp only [ParseState.declaration, cursor_peek, h, h']
    exact Or.inl taken
  · apply Follows.observe (Or.inl taken) (declaration_later s) (declaration_later s')
    intro l same
    have named := l.next same
    simp only [ParseState.declaration, cursor_peek, h, h', ← ht.lexeme]
    rcases same with ⟨h, h'⟩ | ⟨name, name', h, h', hn⟩
    · rw [h, h']
      exact Or.inl (named.reportEnd _ (rest_next_of_none h) _ _)
    · rw [h, h']
      dsimp only
      cases DataType.ofName? type.lexeme with
      | none => exact named.declarationEnd ht hn
      | some d =>
        dsimp only
        rw [← hn.lexeme]
        exact (named.declare name.lexeme d name.span name'.span).declarationEnd ht hn

theorem printed?_eq (l : v.Lockstep s s') {t u : Token} (like : v.LikeToken t u) {ts us : List Token}
    (more : List.Forall₂ v.LikeToken ts us) :
    printed? .byClass s'.symbols u us = printed? .byClass s.symbols t ts := by
  have alone : us = [] ↔ ts = [] := by cases more <;> simp
  unfold printed?
  rw [← l.declared, ← like.lexeme]
  simp [alone, Criteria.byClass, Token.isStringLiteral, like.kind]

theorem argument_spans {t u : Token} (like : v.LikeToken t u) {ts us : List Token}
    (more : List.Forall₂ v.LikeToken ts us) :
    v.spans (((t :: ts).getLast?.getD t).span.merge t.span) (((u :: us).getLast?.getD u).span.merge u.span) := by
  refine v.merge ?_ like.span
  induction more generalizing t u with
  | nil => exact like.span
  | cons next _ ih => simpa [List.getLast?_cons] using ih next

theorem Follows.printStatement (f : v.Follows s s') :
    v.Follows (s.printStatement .byClass) (s'.printStatement .byClass) := by
  apply (f.next.expect "(").observe (printStatement_later _ s) (printStatement_later _ s')
  intro l same
  have taken := l.next same
  rcases same with ⟨h, h'⟩ | ⟨first, first', h, h', like⟩
  · simp only [ParseState.printStatement, cursor_peek, h, h']
    exact Or.inl (taken.reportEnd _ (rest_next_of_none h) _ _)
  · simp only [ParseState.printStatement, cursor_peek, h, h']
    have rest : ∀ (x : ParseState) (found : Option Printed) (text : String) (span : Span),
        Later x (((((if found.isSome then x else x.report (.invalidPrintArgument text) span).expect ")").expect ";").note
          ("Recognized print: " ++ text)).emit (.statement (.print (found.getD (.raw text))))) := by
      intro x found text span
      split
      · exact ((((Later.refl x).expect ")").expect ";").note _).emit _
      · exact (((((Later.refl x).report _ _).expect ")").expect ";").note _).emit _
    have byText : ∀ t u : Token, t.lexeme = u.lexeme → endsArgument t = endsArgument u := by
      intro t u same
      simp only [endsArgument, Token.hasText, same]
    rcases taken.takeUpTo byText with ⟨more, l, -⟩ | p
    · rw [printed?_eq l like more, joinLexemes_eq (.cons like more)]
      split
      · exact (((Follows.expect (Or.inl l) ")").expect ";").note _).emit _
      · exact (((Follows.expect (Or.inl (l.reportAt _ (argument_spans like more))) ")").expect ";").note _).emit _
    · exact Or.inr (p.later (rest _ _ _ _) (rest _ _ _ _).grows)

theorem Lockstep.otherStatement (l : v.Lockstep s s') :
    v.Follows (s.otherStatement .byClass) (s'.otherStatement .byClass) := by
  have byText : ∀ t u : Token, t.lexeme = u.lexeme → isTerminator t = isTerminator u := by
    intro t u same
    simp only [isTerminator, Token.hasText, same]
  rcases l.takeUpTo byText with ⟨parts, l, same⟩ | p
  · have taken := l.next same
    unfold ParseState.otherStatement
    dsimp only
    rcases same with ⟨h, h'⟩ | ⟨t, u, h, h', -⟩
    · rw [List.head?_eq_none_iff] at h h'
      rw [cursor_atEnd, cursor_atEnd, h, h']
      exact Or.inl ((l.judge parts).reportEnd _ (by rw [judge_rest, h]) _ _)
    · obtain ⟨_, h⟩ := List.head?_eq_some_iff.mp h
      obtain ⟨_, h'⟩ := List.head?_eq_some_iff.mp h'
      rw [cursor_atEnd, cursor_atEnd, h, h']
      exact Or.inl (taken.judge parts)
  · exact Or.inr (p.later (otherStatement_later _ s) (otherStatement_later _ s').grows)

/-- The first run may be at its last token, and see no second one where the other run sees one. -/
theorem Lockstep.afterReturn (l : v.Lockstep s s') (same : v.SameHead s s') {t u : Token} {ts us : List Token}
    (h : s.rest = t :: ts) (h' : s'.rest = u :: us) :
    v.Follows
      (if s.peekSecond.rest[1]?.any (·.hasText "0") then s.peekSecond.returnZero
        else s.peekSecond.otherStatement .byClass)
      (if s'.peekSecond.rest[1]?.any (·.hasText "0") then s'.peekSecond.returnZero
        else s'.peekSecond.otherStatement .byClass) := by
  apply Follows.observe (Or.inl (l.next same)) (return_later_next _ h) (return_later_next _ h')
  intro _ second
  have looked : v.Lockstep s.peekSecond s'.peekSecond := by
    refine l.log (.peekAhead 1 ?_)
    simpa using second.rel
  have zero : s'.peekSecond.rest[1]?.any (·.hasText "0") = s.peekSecond.rest[1]?.any (·.hasText "0") := by
    have seen := second.any_hasText "0"
    rwa [rest_next, rest_next, List.head?_tail, List.head?_tail] at seen
  rw [zero]
  split
  · exact (Follows.foldl_expect (Or.inl looked) ["return", "0", ";"]).note _
  · exact looked.otherStatement

theorem Lockstep.statement (l : v.Lockstep s s') {t u : Token} {ts us : List Token} (h : s.rest = t :: ts)
    (h' : s'.rest = u :: us) (like : v.LikeToken t u) :
    v.Follows (s.statement .byClass t) (s'.statement .byClass u) := by
  have typed : Criteria.byClass.isTypeName u = Criteria.byClass.isTypeName t := by
    simp only [Criteria.byClass, Token.isTypeName, like.kind]
  unfold ParseState.statement
  dsimp only
  rw [typed, like.isKeyword_eq, like.isKeyword_eq]
  split
  · exact Follows.declaration (Or.inl l)
  · split
    · exact Follows.printStatement (Or.inl l)
    · split
      · exact l.afterReturn (Or.inr ⟨t, u, by rw [h]; rfl, by rw [h']; rfl, like⟩) h h'
      · exact l.otherStatement

/-! ## Entry functions and programs -/

theorem Follows.body (f : v.Follows s s') : v.Follows (s.body .byClass) (s'.body .byClass) := by
  -- the recursion is that of the first run
  induction s using ParseState.body.induct Criteria.byClass generalizing s' with
  | case1 s h =>
    apply f.observe (body_moves _ s).later (body_moves _ s').later
    intro l same
    rw [body_of_nil h, body_of_nil (same.of_nil h)]
    exact Or.inl (l.peek same)
  | case2 s t ts h close =>
    apply f.observe (body_moves _ s).later (body_moves _ s').later
    intro l same
    obtain ⟨u, us, h', like⟩ := same.of_cons h
    have brace : t.lexeme = "\x7d" := by simpa [Token.hasText] using close
    rw [body_of_close h brace, body_of_close h' (like.lexeme ▸ brace)]
    exact Or.inl (l.peek same)
  | case3 s t ts h inside ih =>
    apply f.observe (body_moves _ s).later (body_moves _ s').later
    intro l same
    obtain ⟨u, us, h', like⟩ := same.of_cons h
    have other : t.lexeme ≠ "\x7d" := by simpa [Token.hasText] using inside
    rw [body_of_statement h other, body_of_statement h' (like.lexeme ▸ other)]
    exact ih ((l.peek same).statement h h' like)

theorem Follows.mainFunction (f : v.Follows s s') :
    v.Follows (s.mainFunction .byClass) (s'.mainFunction .byClass) := by
  have opened : v.Follows s.opened s'.opened := ((f.foldl_expect _).note _).emit _
  rw [mainFunction_eq, mainFunction_eq]
  exact ((opened.body.expect "\x7d").emit _).note _

theorem functions_of_main {c : Criteria} {t : Token} {ts : List Token} (h : s.rest = t :: ts) :
    s.functions c =
      if c.isKeyword .main t then (s.peek.mainFunction c).functions c
      else (s.peek.report (.tokenOutsideMain t.lexeme) t.span).next.functions c := by
  rw [functions]
  split
  · next h' =>
    rw [h] at h'
    cases h'
  · next h' =>
    rw [h] at h'
    obtain ⟨rfl, rfl⟩ := List.cons.inj h'
    rfl

theorem Follows.functions (f : v.Follows s s') : v.Follows (s.functions .byClass) (s'.functions .byClass) := by
  induction s using ParseState.functions.induct Criteria.byClass generalizing s' with
  | case1 s h =>
    apply f.observe (functions_moves _ s).later (functions_moves _ s').later
    intro l same
    rw [functions_of_nil h, functions_of_nil (same.of_nil h)]
    exact Or.inl (l.peek same)
  | case2 s t ts h starts ih =>
    apply f.observe (functions_moves _ s).later (functions_moves _ s').later
    intro l same
    obtain ⟨u, us, h', like⟩ := same.of_cons h
    rw [functions_of_main h, functions_of_main h', like.isKeyword_eq, if_pos starts, if_pos starts]
    exact ih (Follows.mainFunction (Or.inl (l.peek same)))
  | case3 s t ts h other ih =>
    apply f.observe (functions_moves _ s).later (functions_moves _ s').later
    intro l same
    obtain ⟨u, us, h', like⟩ := same.of_cons h
    rw [functions_of_main h, functions_of_main h', like.isKeyword_eq, if_neg other, if_neg other, ← like.lexeme]
    exact ih (Or.inl (((l.peek same).reportAt _ like.span).next same))

theorem Lockstep.size_eq (l : v.Lockstep s s') : s.symbols.size = s'.symbols.size := by
  have names := congrArg List.length (SymbolTable.names_eq_of_lookup l.declared)
  simpa [SymbolTable.names, SymbolTable.size] using names

end Variation

/-- **Two runs.** The parser does the same on both inputs until the first run meets the end of its tokens. -/
theorem parse_follows (v : Variation) {ts us : List Token} (h : List.Forall₂ v.LikeToken ts us)
    (size : ts.length = v.size) : v.Follows (parse ts) (parse (us ++ v.more)) := by
  have start : v.Lockstep (ofTokens ts) (ofTokens (us ++ v.more)) :=
    ⟨⟨us, h, rfl⟩, (Nat.zero_add _).trans size, rfl, fun _ => rfl, .nil⟩
  have done := (Variation.Follows.emit (Or.inl start) .header).functions
  refine done.both ((Later.refl _).note _) ((Later.refl _).note _) fun l => ?_
  unfold parse program
  dsimp only
  rw [← l.size_eq]
  exact l.log (.note _)

end CSubset

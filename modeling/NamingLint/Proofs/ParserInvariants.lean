import Mathlib.Data.List.TakeDrop
import NamingLint.Kotlin.Grammar.Nonterminal
import NamingLint.Kotlin.Lowering

/-!
What parsers keep. An invariant of the state is kept by a parser when it holds in the state in which
the parser stops, be it done or left open; where a parser does not apply there is no such state. The
ways of putting parsers together keep what their parts keep, whatever the invariant is.

The invariant of interest here says that the text left to read stands in the source at the offset of
the state, and that the imports in the nodes read so far have a given property. A parser keeps it
when the nodes that it makes are of other kinds. That a parser applies anywhere is not said.
-/

namespace NamingLint.Text

theorem octets_cons (c : Char) (text : List Char) :
    octets (c :: text) = c.utf8Size + octets text := rfl

theorem octets_append (a b : List Char) :
    octets (a ++ b) = octets a + octets b := by
  induction a with
  | nil => exact (Nat.zero_add _).symm
  | cons c a ih => rw [List.cons_append, octets_cons, octets_cons, ih, Nat.add_assoc]

end NamingLint.Text

namespace NamingLint.Kotlin

def Outcome.Ends {α : Type} (I : State → Prop) : Outcome α → Prop
  | .done _ s | .unclosed s => I s
  | .mismatch => True

namespace Parser

/-- Wherever the parser stops, the invariant holds again. -/
class Keeps {α : Type} (I : State → Prop) (p : Parser α) : Prop where
  ends : ∀ s, I s → (p s).Ends I

theorem bind_ends {α β : Type} {I : State → Prop} {p : Parser α} {f : α → Parser β} {s : State}
    (hp : (p s).Ends I) (hf : ∀ a t, p s = .done a t → (f a t).Ends I) :
    ((p >>= f) s).Ends I := by
  change Outcome.Ends I (Parser.bind p f s)
  unfold Parser.bind
  cases hs : p s with
  | done a t => exact hf a t hs
  | mismatch => trivial
  | unclosed t =>
      rw [hs] at hp
      exact hp

namespace Keeps

variable {α β : Type} {I : State → Prop}

theorem pure (a : α) : Keeps I (Pure.pure a : Parser α) :=
  ⟨fun _ h => h⟩

theorem look (f : State → α) : Keeps I (Parser.look f) :=
  ⟨fun _ h => h⟩

theorem mismatch : Keeps I (Parser.mismatch : Parser α) :=
  ⟨fun _ _ => trivial⟩

theorem guard (b : Bool) : Keeps I (Parser.guard b) := by
  cases b
  · exact mismatch
  · exact ⟨fun _ h => h⟩

theorem bind {p : Parser α} {f : α → Parser β} (hp : Keeps I p) (hf : ∀ a, Keeps I (f a)) :
    Keeps I (p >>= f) where
  ends := fun s h => bind_ends (hp.ends s h) fun a t hs =>
    (hf a).ends t (hs ▸ hp.ends s h : (Outcome.done a t).Ends I)

theorem seq {p : Parser α} {q : Parser β} (hp : Keeps I p) (hq : Keeps I q) :
    Keeps I (p >>= fun _ => q) :=
  hp.bind fun _ => hq

theorem check {f : State → α} {b : α → Bool} :
    Keeps I (Parser.look f >>= fun a => Parser.guard (b a)) :=
  bind (look f) fun a => guard (b a)

/-- A parser behind a condition on what comes next. -/
theorem guarded {f : State → α} {b : α → Bool} {q : α → Parser β} (hq : ∀ a, Keeps I (q a)) :
    Keeps I (Parser.look f >>= fun a => Parser.guard (b a) >>= fun _ => q a) :=
  bind (look f) fun a => (guard (b a)).seq (hq a)

/-- A parser behind words that may not come next. -/
theorem unlessWord {words : List String} {q : Parser β} (hq : Keeps I q) :
    Keeps I (Parser.wordIn words >>= fun w => Parser.guard (!w) >>= fun _ => q) :=
  bind (bind (look _) fun _ => pure _) fun w => (guard (!w)).seq hq

theorem ite {c : Prop} [Decidable c] {p q : Parser α} (hp : Keeps I p) (hq : Keeps I q) :
    Keeps I (if c then p else q) := by
  split
  · exact hp
  · exact hq

/-- A parser chosen by what comes next. -/
theorem test {c : Parser Bool} {p q : Parser α} (hc : Keeps I c) (hp : Keeps I p)
    (hq : Keeps I q) : Keeps I (c >>= fun b => if b then p else q) :=
  hc.bind fun _ => ite hp hq

/-- A choice between two parsers before the rest. -/
theorem branch {c : Parser Bool} {p q : Parser α} {r : α → Parser β} (hc : Keeps I c)
    (hp : Keeps I p) (hq : Keeps I q) (hr : ∀ a, Keeps I (r a)) :
    Keeps I (c >>= fun b => if b then p >>= r else q >>= r) :=
  test hc (hp.bind hr) (hq.bind hr)

/-- A parser that is only run on a condition, before the rest. -/
theorem when {c : Parser Bool} {p : Parser Unit} {r : Unit → Parser β} (hc : Keeps I c)
    (hp : Keeps I p) (hr : Keeps I (r ())) :
    Keeps I (c >>= fun b => if b then p >>= r else r ()) :=
  test hc (hp.bind fun _ => hr) hr

theorem orElse {p q : Parser α} (hp : Keeps I p) (hq : Keeps I q) :
    Keeps I (Parser.orElse p q) := by
  refine ⟨fun s h => ?_⟩
  have hfirst := hp.ends s h
  unfold Parser.orElse
  cases hs : p s with
  | mismatch => exact hq.ends s h
  | done a s' | unclosed s' =>
      rw [hs] at hfirst
      exact hfirst

theorem choice {ps : List (Parser α)} (h : ∀ p ∈ ps, Keeps I p) : Keeps I (Parser.choice ps) := by
  induction ps with
  | nil => exact mismatch
  | cons p rest ih =>
      obtain ⟨hp, hrest⟩ := List.forall_mem_cons.mp h
      exact orElse hp (ih hrest)

theorem none : Keeps I (Parser.choice ([] : List (Parser α))) :=
  mismatch

theorem or {p : Parser α} {ps : List (Parser α)} (hp : Keeps I p)
    (hps : Keeps I (Parser.choice ps)) : Keeps I (Parser.choice (p :: ps)) :=
  orElse hp hps

theorem attempt {p : Parser Unit} (hp : Keeps I p) : Keeps I (Parser.attempt p) :=
  orElse (hp.seq (pure true)) (pure false)

theorem optional {p : Parser Unit} (hp : Keeps I p) : Keeps I (Parser.optional p) :=
  orElse hp (pure ())

/-- A parser that is only tried leaves the state as it was. -/
theorem applies (p : Parser Unit) : Keeps I (Parser.applies p) := by
  refine ⟨fun s h => ?_⟩
  unfold Parser.applies
  cases p s with
  | done _ _ | mismatch | unclosed _ => exact h

theorem manyWithin {p : Parser Unit} (hp : Keeps I p) (n : Nat) :
    Keeps I (Parser.manyWithin p n) := by
  induction n with
  | zero => exact pure ()
  | succ n ih =>
      refine ⟨fun s h => ?_⟩
      have hfirst := hp.ends s h
      unfold Parser.manyWithin
      cases hs : p s with
      | mismatch => exact h
      | unclosed s' =>
          rw [hs] at hfirst
          exact hfirst
      | done a next =>
          rw [hs] at hfirst
          simp only
          split
          · exact h
          · exact ih.ends next hfirst

theorem many {p : Parser Unit} (hp : Keeps I p) : Keeps I (Parser.many p) :=
  ⟨fun s => (manyWithin hp (s.size + 1)).ends s⟩

/-- A parser that has to come before the text ends. -/
theorem unlessEmpty {p : Parser Unit} (hp : Keeps I p) :
    Keeps I fun s => if s.rest.isEmpty then .unclosed s else p s := by
  refine ⟨fun s h => ?_⟩
  split
  · exact h
  · exact hp.ends s h

theorem wordIn (words : List String) : Keeps I (Parser.wordIn words) :=
  bind (look _) fun _ => pure _

end Keeps
end Parser

/-- The imports in a tree, itself included, have a property. The word `import` is no import. -/
inductive Concrete.ImportsAre (P : Concrete → Prop) : Concrete → Prop where
  | node {head : Head} {children : List Concrete}
      (here : head.named = true → isImportKind head.kind = true → P (.node head children))
      (below : ∀ c ∈ children, ImportsAre P c) : ImportsAre P (.node head children)

theorem Concrete.ImportsAre.other {P : Concrete → Prop} {head : Head} {children : List Concrete}
    (hkind : head.named = true → isImportKind head.kind = false)
    (below : ∀ c ∈ children, ImportsAre P c) : ImportsAre P (.node head children) :=
  .node (fun hnamed himport => absurd himport (Bool.eq_false_iff.mp (hkind hnamed))) below

/-- What is left stands in the source at the offset; the imports read have a property. -/
structure Placed (source : List Char) (P : Concrete → Prop) (s : State) : Prop where
  aligned : s.rest ≠ [] → ∃ before, source = before ++ s.rest ∧ Text.octets before = s.offset
  imports : ∀ c ∈ s.nodes, c.ImportsAre P

namespace Placed

variable {source : List Char} {P : Concrete → Prop} {s : State}

/-- The alignment survives that characters are taken. -/
theorem drop (h : Placed source P s) (n : Nat) (hrest : s.rest.drop n ≠ []) :
    ∃ before, source = before ++ s.rest.drop n ∧
      Text.octets before = s.offset + Text.octets (s.rest.take n) := by
  have hne : s.rest ≠ [] := fun hnil => hrest (by rw [hnil, List.drop_nil])
  obtain ⟨before, hsource, hoffset⟩ := h.aligned hne
  refine ⟨before ++ s.rest.take n, ?_, ?_⟩
  · rw [List.append_assoc, List.take_append_drop, hsource]
  · rw [Text.octets_append, hoffset]

theorem emptyFrame (h : Placed source P s) : Placed source P { s with nodes := [] } :=
  ⟨h.aligned, nofun⟩

/-- The nodes of an inner frame are put in front of those around it. -/
theorem rejoin {outer inner : State} (houter : Placed source P outer)
    (hinner : Placed source P inner) :
    Placed source P { inner with nodes := inner.nodes ++ outer.nodes } :=
  ⟨hinner.aligned, fun c hc => (List.mem_append.mp hc).elim (hinner.imports c) (houter.imports c)⟩

end Placed

theorem Parser.frame_ends {α : Type} {source : List Char} {P : Concrete → Prop} {p : Parser α}
    {s : State} (h : Placed source P s)
    (hp : (p { s with nodes := [] }).Ends (Placed source P)) :
    (Parser.frame p s).Ends (Placed source P) := by
  unfold Parser.frame
  cases hs : p { s with nodes := [] } with
  | mismatch => trivial
  | done a next | unclosed next =>
      rw [hs] at hp
      exact h.rejoin hp

namespace Parser.Keeps

variable {α : Type} {source : List Char} {P : Concrete → Prop} {p : Parser Unit}

theorem frame {p : Parser α} (hp : Keeps (Placed source P) p) :
    Keeps (Placed source P) (Parser.frame p) :=
  ⟨fun _ h => frame_ends h (hp.ends _ h.emptyFrame)⟩

theorem within {p : Parser α} (breaks lambdas : Bool) (hp : Keeps (Placed source P) p) :
    Keeps (Placed source P) (Parser.within breaks lambdas p) := by
  refine ⟨fun s h => ?_⟩
  have hinner := hp.ends { s with breaks, lambdas } ⟨h.aligned, h.imports⟩
  unfold Parser.within
  cases hs : p { s with breaks, lambdas } with
  | mismatch => trivial
  | done a next | unclosed next =>
      rw [hs] at hinner
      exact ⟨hinner.aligned, hinner.imports⟩

theorem reduceAs {kind : String} (role : Role) (extra : Bool)
    (hk : isImportKind kind = false := by decide) :
    Keeps (Placed source P) (Parser.reduceAs kind role extra) := by
  refine ⟨fun s h => ?_⟩
  unfold Parser.reduceAs
  rw [List.span_eq_takeWhile_dropWhile]
  have hmem (c) (hc : c ∈ s.nodes.takeWhile isComment ++ s.nodes.dropWhile isComment) :
      c.ImportsAre P := h.imports c (by rwa [List.takeWhile_append_dropWhile] at hc)
  cases hnodes : s.nodes.dropWhile isComment with
  | nil => exact h
  | cons last before =>
      rw [hnodes] at hmem
      refine ⟨h.aligned, fun c hc => ?_⟩
      rcases List.mem_append.mp hc with hc | hc
      · exact hmem c (List.mem_append_left _ hc)
      · rw [List.mem_singleton.mp hc]
        refine .other (fun _ => hk) fun d hd => hmem d (List.mem_append_right _ ?_)
        simpa [or_comm] using hd

theorem reduce {kind : String} (hk : isImportKind kind = false := by decide) :
    Keeps (Placed source P) (Parser.reduce kind) :=
  reduceAs .plain false hk

theorem node {kind : String} (hp : Keeps (Placed source P) p)
    (hk : isImportKind kind = false := by decide) :
    Keeps (Placed source P) (Parser.node kind p) :=
  frame (hp.seq (reduce hk))

theorem leaf {head : Nat → Nat → Head} (length : Nat)
    (hhead : ∀ start stop, (head start stop).named = true →
      isImportKind (head start stop).kind = false) :
    Keeps (Placed source P) (Parser.leaf head length) := by
  refine ⟨fun s h => ⟨h.drop length, fun c hc => ?_⟩⟩
  rcases List.mem_cons.mp hc with rfl | hc
  · exact .other (hhead _ _) nofun
  · exact h.imports c hc

theorem leaf_named {kind : String} (role : Role) (length : Nat)
    (hk : isImportKind kind = false := by decide) :
    Keeps (Placed source P) (Parser.leaf (Parser.named kind role) length) :=
  leaf length fun _ _ _ => hk

theorem leaf_anonymous (text : String) (length : Nat) :
    Keeps (Placed source P) (Parser.leaf (anonymous text) length) :=
  leaf length fun _ _ hnamed => absurd hnamed Bool.false_ne_true

theorem leaf_comment {kind : String} (length : Nat) (hk : isImportKind kind = false := by decide) :
    Keeps (Placed source P) (Parser.leaf (comment kind) length) :=
  leaf length fun _ _ _ => hk

theorem skip (length : Nat) : Keeps (Placed source P) (Parser.skip length) :=
  ⟨fun _ h => ⟨h.drop length, h.imports⟩⟩

theorem triviaItem : Keeps (Placed source P) Parser.triviaItem := by
  refine bind (look _) fun text => ?_
  split
  · exact mismatch
  · refine ite ((skip 1).seq (ite ?_ (pure ()))) ?_
    · exact ⟨fun _ h => ⟨h.aligned, h.imports⟩⟩
    · split
      · exact mismatch
      · exact leaf_comment _
      · exact leaf_comment _

theorem trivia : Keeps (Placed source P) Parser.trivia :=
  .seq ⟨fun _ h => ⟨h.aligned, h.imports⟩⟩ (many triviaItem)

theorem token_named {kind : String} (role : Role) (length : Nat)
    (hk : isImportKind kind = false := by decide) :
    Keeps (Placed source P) (token (Parser.named kind role) length) :=
  (leaf_named role length hk).seq trivia

theorem token_anonymous (text : String) (length : Nat) :
    Keeps (Placed source P) (token (anonymous text) length) :=
  (leaf_anonymous text length).seq trivia

theorem sign (text : String) : Keeps (Placed source P) (Parser.sign text) :=
  guarded fun _ => token_anonymous text _

theorem signUnless (text : String) (followers : List Char) :
    Keeps (Placed source P) (Parser.signUnless text followers) :=
  guarded fun _ => sign text

theorem closing (text : String) : Keeps (Placed source P) (Parser.closing text) :=
  unlessEmpty (sign text)

theorem keyword (text : String) : Keeps (Placed source P) (Parser.keyword text) :=
  guarded fun _ => token_anonymous text _

theorem identifier (role : Role) : Keeps (Placed source P) (Parser.identifier role) :=
  guarded fun length => token_named role length

theorem commaList (hp : Keeps (Placed source P) p) :
    Keeps (Placed source P) (Parser.commaList p) :=
  .test hp.attempt (.seq (.many (.seq (.sign ",") hp)) (.optional (.sign ","))) (pure ())

theorem commaList1 (hp : Keeps (Placed source P) p) :
    Keeps (Placed source P) (Parser.commaList1 p) :=
  hp.seq (.many (.seq (.sign ",") hp))

theorem parenthesized (hp : Keeps (Placed source P) p) :
    Keeps (Placed source P) (Parser.parenthesized p) :=
  .within false true (.seq (.sign "(") (.seq hp (.closing ")")))

theorem braced (hp : Keeps (Placed source P) p) :
    Keeps (Placed source P) (Parser.braced p) :=
  .within true true (.seq (.sign _) (.seq hp (.closing _)))

theorem errorToken : Keeps (Placed source P) Parser.errorToken :=
  guarded fun length => .frame (.seq (.token_anonymous "" length) (.reduceAs .plain true))

theorem itemsOf (hp : Keeps (Placed source P) p) :
    Keeps (Placed source P) (Parser.itemsOf p) :=
  .many (guarded fun _ => .or (.sign ";") (.or hp (.or .errorToken .none)))

end Parser.Keeps
end NamingLint.Kotlin

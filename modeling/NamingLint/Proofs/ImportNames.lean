import Mathlib.Data.List.TakeWhile
import NamingLint.Proofs.TokensRead

/-!
The imports that the parser leaves in the tree of a source. Every one of them has the word `import`,
a qualified name and perhaps an alias, a wildcard or a semicolon, with comments anywhere between
them; the qualified name is made of identifiers with dots between them, and again of comments.
Nothing is said of the trees that another parser would build.
-/

namespace NamingLint.Kotlin

variable {source : List Char} {s t u : State}

/-- The text of a name: a word, of which no more is asked than that blanks and dots end it, or
characters between backticks. -/
inductive IsName : List Char → Prop where
  | word {text : List Char} (written : text ≠ [])
      (parts : ∀ x ∈ text, Text.isSpace x = false ∧ x ≠ '.') : IsName text
  | quoted (inner : List Char) : IsName ('\x60' :: inner ++ ['\x60'])

theorem isWordPart_of_isSpace {c : Char} (h : Text.isSpace c = true) :
    Lexis.isWordPart c = false := by
  let spaces : List Nat := Text.whiteSpace.flatMap fun range =>
    List.range' range.1 (range.2 + 1 - range.1)
  have hall : ∀ n ∈ spaces, Lexis.isWordPart (Char.ofNat n) = false := by decide +kernel
  have hmem : c.toNat ∈ spaces := by
    obtain ⟨⟨least, greatest⟩, hrange, hwithin⟩ := List.any_eq_true.mp h
    simp only [Bool.and_eq_true, decide_eq_true_eq] at hwithin
    refine List.mem_flatMap.mpr ⟨(least, greatest), hrange, List.mem_range'_1.mpr ?_⟩
    omega
  simpa using hall c.toNat hmem

theorem isName_word {text : List Char} (h : Lexis.word text ≠ []) : IsName (Lexis.word text) := by
  refine .word h fun x hx => ?_
  have hpart : Lexis.isWordPart x = true := by
    unfold Lexis.word at hx
    split at hx
    · split at hx
      · exact List.mem_takeWhile_imp hx
      · cases hx
    · cases hx
  refine ⟨?_, fun hdot => absurd (hdot ▸ hpart) (by decide)⟩
  cases hspace : Text.isSpace x with
  | false => rfl
  | true => exact absurd hpart (Bool.eq_false_iff.mp (isWordPart_of_isSpace hspace))

theorem isName_backtick {text : List Char} (h : Lexis.backtick text ≠ 0) :
    IsName (text.take (Lexis.backtick text)) := by
  unfold Lexis.backtick at h ⊢
  split at h
  · next rest =>
      simp only at h ⊢
      generalize hinner :
        rest.takeWhile (fun c => c != '\x60' && c != '\n' && c != '\r') = inner at *
      split at h
      · exact absurd rfl h
      · next hne =>
          split at h
          · next after hafter =>
              have hsplit : rest = inner ++ ['\x60'] ++ after := by
                obtain ⟨back, hback⟩ := List.takeWhile_prefix (l := rest)
                  fun c => c != '\x60' && c != '\n' && c != '\r'
                rw [hinner] at hback
                rw [← hback, List.drop_left] at hafter
                rw [← hback, hafter, List.append_assoc, List.singleton_append]
              rw [if_neg hne, hsplit, List.take_succ_cons, List.take_left' (by simp)]
              exact .quoted inner
          · exact absurd rfl h
  · exact absurd rfl h

theorem isName_identifier {text : List Char} (h : Lexis.identifier text ≠ 0) :
    IsName (text.take (Lexis.identifier text)) := by
  cases hquoted : Lexis.backtick text with
  | succ n =>
      have hbacktick : Lexis.identifier text = Lexis.backtick text := by
        simp [Lexis.identifier, hquoted]
      rw [hbacktick]
      exact isName_backtick (by simp [hquoted])
  | zero =>
      have hword : Lexis.identifier text = (Lexis.word text).length := by
        simp [Lexis.identifier, hquoted]
      have hne : Lexis.word text ≠ [] := fun hnil => h (by rw [hword, hnil, List.length_nil])
      have hstarts : Lexis.word text <+: text := by
        unfold Lexis.word
        split
        · split
          · exact List.takeWhile_prefix _
          · exact List.nil_prefix
        · exact List.nil_prefix
      rw [hword, ← List.prefix_iff_eq_take.mp hstarts]
      exact isName_word hne

/-- An identifier of the grammar, wherever it stands. -/
structure IsIdentifier (source : List Char) (c : Concrete) : Prop where
  kind : c.kind = "identifier"
  proper : c.head.extra = false
  name : IsName (c.text source)

structure IsDot (source : List Char) (c : Concrete) : Prop where
  kind : c.kind = "."
  proper : c.head.extra = false
  text : c.text source = ['.']

/-- Identifiers with dots between them, and comments on either side of a dot. -/
inductive Dotted (source : List Char) : List Concrete → Prop where
  | name {c : Concrete} (h : IsIdentifier source c) : Dotted source [c]
  | dot {parts comments comments' : List Concrete} {dot c : Concrete}
      (before : Dotted source parts) (hcomments : ∀ d ∈ comments, IsComment source d)
      (hdot : IsDot source dot) (hcomments' : ∀ d ∈ comments', IsComment source d)
      (h : IsIdentifier source c) :
      Dotted source (parts ++ comments ++ [dot] ++ comments' ++ [c])

structure IsQualified (source : List Char) (q : Concrete) : Prop where
  kind : q.kind = "qualified_identifier"
  proper : q.head.extra = false
  parts : Dotted source q.children
  solid : q.solid source = q.children.flatMap (Concrete.solid source)

/-- What follows the name: a wildcard or what begins with no part of a path. -/
inductive IsSuffix (source : List Char) : List Concrete → Prop where
  | other {rest : List Concrete} (h : ∀ c ∈ rest.head?, isPathKind c.kind = false) :
      IsSuffix source rest
  | wildcard {dot star : Concrete} {rest : List Concrete} (hdot : IsDot source dot)
      (hstar : isPathKind star.kind = false) : IsSuffix source (dot :: star :: rest)

structure IsImport (source : List Char) (c word q : Concrete) (suffix : List Concrete) : Prop where
  children : Concrete.proper c.children = word :: q :: suffix
  word : word.kind = "import"
  name : IsQualified source q
  suffix : IsSuffix source suffix

/-- A dotted name ends in an identifier. -/
theorem Dotted.last {parts : List Concrete} (h : Dotted source parts) :
    ∃ front c, parts = front ++ [c] ∧ IsIdentifier source c := by
  cases h with
  | name h => exact ⟨[], _, rfl, h⟩
  | dot _ _ _ _ h => exact ⟨_, _, rfl, h⟩

theorem IsComment.isComment {c : Concrete} (h : IsComment source c) :
    Parser.isComment c = true := by
  have herror : c.head.isError = false := by
    unfold Head.isError
    rcases h.kind with hkind | hkind <;> rw [show c.head.kind = _ from hkind] <;> decide
  simp [Parser.isComment, h.extra, herror]

theorem isComment_of_proper {c : Concrete} (h : c.head.extra = false) :
    Parser.isComment c = false := by
  simp [Parser.isComment, h]

theorem ReadsToken.standsIn {kind : String} {text : List Char} {c : Concrete}
    (h : ReadsToken source kind text c s t u) (hs : s.StandsIn source) : u.StandsIn source := by
  obtain ⟨comments, hcomments, -⟩ := h.trails
  exact hcomments.standsIn (h.reads.standsIn hs)

/-- A dotted name is read up to the end of its last identifier, and then blanks and comments. -/
structure ReadsName (source : List Char) (parts : List Concrete) (s mid t : State) : Prop where
  dotted : Dotted source parts
  start : ∀ c, (parts.headD c).head.start = s.offset
  stop : ∀ c ∈ parts.getLast?, c.head.stop = mid.offset
  reads : Reads source s mid parts
  trails : Trails source mid t

theorem readsName_identifier (hs : s.StandsIn source) {a : Unit}
    (h : Parser.identifier .plain s = .done a t) :
    ∃ c mid, ReadsName source [c] s mid t := by
  obtain ⟨hne, c, mid, hread⟩ := Parser.readsToken_identifier hs h
  have hname : IsIdentifier source c :=
    ⟨hread.kind, hread.proper, by rw [hread.text]; exact isName_identifier hne⟩
  refine ⟨c, mid, .name hname, fun _ => hread.start, ?_, hread.reads, hread.trails⟩
  intro d hd
  obtain rfl := Option.mem_some.mp hd
  exact hread.stop

theorem Dotted.ne_nil {parts : List Concrete} (h : Dotted source parts) : parts ≠ [] := by
  obtain ⟨front, c, rfl, -⟩ := h.last
  exact List.append_ne_nil_of_right_ne_nil _ (List.cons_ne_nil _ _)

/-- A dot and an identifier make a dotted name longer. -/
theorem ReadsName.dot {parts : List Concrete} {mid v w : State} {a b : Unit}
    (hs : s.StandsIn source) (h : ReadsName source parts s mid t)
    (hdot : Parser.sign "." t = .done a v) (hname : Parser.identifier .plain v = .done b w) :
    ∃ parts' mid', ReadsName source parts' s mid' w := by
  obtain ⟨comments, hreads, hcomments⟩ := h.trails
  have ht : t.StandsIn source := hreads.standsIn (h.reads.standsIn hs)
  obtain ⟨dot, middot, hd⟩ := Parser.readsToken_sign ht hdot
  obtain ⟨comments', hreads', hcomments'⟩ := hd.trails
  obtain ⟨hne, c, mid', hc⟩ := Parser.readsToken_identifier (hd.standsIn ht) hname
  have hIdentifier : IsIdentifier source c :=
    ⟨hc.kind, hc.proper, by rw [hc.text]; exact isName_identifier hne⟩
  have hIsDot : IsDot source dot := ⟨hd.kind, hd.proper, hd.text⟩
  refine ⟨_, mid', h.dotted.dot hcomments hIsDot hcomments' hIdentifier, fun d => ?_, ?_, ?_,
    hc.trails⟩
  · obtain ⟨first, rest, rfl⟩ := List.exists_cons_of_ne_nil h.dotted.ne_nil
    exact h.start d
  · intro d hlast
    rw [List.getLast?_concat] at hlast
    obtain rfl := Option.mem_some.mp hlast
    exact hc.stop
  · exact (((h.reads.trans hreads).trans hd.reads).trans hreads').trans hc.reads

theorem readsName_qualified (hs : s.StandsIn source) {a : Unit}
    (h : (do Parser.identifier; Parser.many do Parser.sign "."; Parser.identifier : Parser Unit) s =
      .done a t) :
    ∃ parts mid, ReadsName source parts s mid t := by
  obtain ⟨_, u, hfirst, h⟩ := Parser.bind_eq_done h
  obtain ⟨c, mid, hname⟩ := readsName_identifier hs hfirst
  refine Parser.many_eq_done (I := fun t => ∃ parts mid, ReadsName source parts s mid t)
    (fun v w hv hstep => ?_) h ⟨[c], mid, hname⟩
  obtain ⟨parts, mid, hname⟩ := hv
  obtain ⟨_, x, hdot, hnext⟩ := Parser.bind_eq_done hstep
  exact hname.dot hs hdot hnext

/-- The qualified name is one node that covers its parts, and no more of the source. -/
theorem reads_qualifiedIdentifier (hs : s.StandsIn source) {a : Unit}
    (h : Grammar.qualifiedIdentifier s = .done a t) :
    ∃ q mid, IsQualified source q ∧ Reads source s mid [q] ∧ Trails source mid t := by
  obtain ⟨u, hrun, rfl⟩ := Parser.frame_eq_done h
  obtain ⟨_, v, hparts, hreduce⟩ := Parser.bind_eq_done hrun
  obtain ⟨parts, mid, hname⟩ := readsName_qualified (s := { s with nodes := [] }) hs hparts
  obtain ⟨comments, htrail, hcomments⟩ := hname.trails
  obtain ⟨front, last, rfl, hlast⟩ := hname.dotted.last
  have hnodes : v.nodes = comments.reverse ++ last :: front.reverse := by
    rw [htrail.nodes, hname.reads.nodes]
    simp
  have hcommentNodes (c) (hc : c ∈ comments.reverse) : Parser.isComment c = true :=
    (hcomments c (List.mem_reverse.mp hc)).isComment
  have hstop : last.head.stop = mid.offset := hname.stop last (by simp)
  unfold Parser.reduce at hreduce
  rw [Parser.reduceAs_eq hnodes hcommentNodes (isComment_of_proper hlast.proper),
    List.reverse_reverse, hname.start, hstop] at hreduce
  obtain ⟨-, rfl⟩ := Outcome.done.inj hreduce
  generalize hq : Concrete.node _ (front ++ [last]) = q
  have hsolid : q.solid source = (front ++ [last]).flatMap (Concrete.solid source) := by
    rw [← hname.reads.removeSpace_slice hs, ← hq]
    rfl
  refine ⟨q, { mid with nodes := q :: s.nodes }, ?_, ⟨?_, rfl⟩, comments, ⟨htrail.text, ?_⟩,
    hcomments⟩
  · subst hq
    exact ⟨rfl, rfl, hname.dotted, hsolid⟩
  · rw [List.flatMap_singleton, hsolid]
    exact hname.reads.text
  · simp

/-- A run keeps its place and adds nodes, those listed and comments and what could not be read. -/
structure Adds (source : List Char) (s t : State) (cs : List Concrete) : Prop where
  standsIn : s.StandsIn source → t.StandsIn source
  nodes : ∃ added, t.nodes = added.reverse ++ s.nodes ∧ Concrete.proper added = cs

theorem Adds.refl (source : List Char) (s : State) : Adds source s s [] :=
  ⟨id, [], rfl, rfl⟩

theorem Adds.trans {cs ds : List Concrete} (h : Adds source s t cs) (h' : Adds source t u ds) :
    Adds source s u (cs ++ ds) := by
  obtain ⟨hplace, added, hnodes, rfl⟩ := h
  obtain ⟨hplace', added', hnodes', rfl⟩ := h'
  refine ⟨hplace' ∘ hplace, added ++ added', ?_, List.filter_append ..⟩
  rw [hnodes', hnodes, List.reverse_append, List.append_assoc]

theorem proper_append (a b : List Concrete) :
    Concrete.proper (a ++ b) = Concrete.proper a ++ Concrete.proper b :=
  List.filter_append ..

theorem Reads.adds {added : List Concrete} (h : Reads source s t added) :
    Adds source s t (Concrete.proper added) :=
  ⟨h.standsIn, added, h.nodes, rfl⟩

theorem proper_comments {comments : List Concrete} (h : ∀ c ∈ comments, IsComment source c) :
    Concrete.proper comments = [] :=
  List.filter_eq_nil_iff.mpr fun c hc => by simp [(h c hc).extra]

theorem Trails.adds (h : Trails source s t) : Adds source s t [] := by
  obtain ⟨comments, hreads, hcomments⟩ := h
  rw [← proper_comments hcomments]
  exact hreads.adds

theorem adds_proper {mid : State} {c : Concrete} (h : Reads source s mid [c])
    (hproper : c.head.extra = false) (htrails : Trails source mid t) : Adds source s t [c] := by
  simpa [Concrete.proper, hproper] using h.adds.trans htrails.adds

theorem ReadsToken.adds {kind : String} {text : List Char} {c : Concrete} {mid : State}
    (h : ReadsToken source kind text c s mid t) : Adds source s t [c] :=
  adds_proper h.reads h.proper h.trails

/-- A dot after which the name breaks off is left as something that could not be read. -/
theorem adds_brokenDot (hs : s.StandsIn source) {a : Unit}
    (h : Parser.frame (do Parser.sign "."; Parser.reduceAs "ERROR" .plain true) s = .done a t) :
    Adds source s t [] := by
  obtain ⟨u, hrun, rfl⟩ := Parser.frame_eq_done h
  obtain ⟨_, v, hdot, hreduce⟩ := Parser.bind_eq_done hrun
  obtain ⟨dot, mid, hread⟩ := Parser.readsToken_sign (s := { s with nodes := [] }) hs hdot
  have hplace := hread.standsIn hs
  obtain ⟨comments, htrail, hcomments⟩ := hread.trails
  have hnodes : v.nodes = comments.reverse ++ dot :: [] := by
    rw [htrail.nodes, hread.reads.nodes]
    rfl
  have hcommentNodes (c) (hc : c ∈ comments.reverse) : Parser.isComment c = true :=
    (hcomments c (List.mem_reverse.mp hc)).isComment
  rw [Parser.reduceAs_eq hnodes hcommentNodes (isComment_of_proper hread.proper)] at hreduce
  obtain ⟨-, rfl⟩ := Outcome.done.inj hreduce
  generalize herror : Concrete.node _ ([].reverse ++ [dot]) = error
  have hextra : error.head.extra = true := by rw [← herror]; rfl
  refine ⟨fun _ => hplace, error :: comments, by simp, ?_⟩
  change Concrete.proper ([error] ++ comments) = []
  rw [proper_append]
  exact List.append_eq_nil_iff.mpr ⟨by simp [Concrete.proper, hextra], proper_comments hcomments⟩

theorem adds_sign (hs : s.StandsIn source) {text : String} {a : Unit}
    (h : Parser.sign text s = .done a t) :
    ∃ c, Adds source s t [c] ∧ c.kind = text ∧ c.head.extra = false ∧
      c.text source = text.toList := by
  obtain ⟨c, mid, hread⟩ := Parser.readsToken_sign hs h
  exact ⟨c, hread.adds, hread.kind, hread.proper, hread.text⟩

/-- An alias or a wildcard ends the path, whatever comes then. -/
theorem adds_importSuffix (hs : s.StandsIn source) {a : Unit}
    (h : Grammar.importSuffix s = .done a t) :
    ∃ cs, Adds source s t cs ∧ (cs = [] ∨ ∀ rest, IsSuffix source (cs ++ rest)) := by
  rcases Parser.orElse_eq_done h with h | h
  · obtain ⟨_, u, hdot, hstar⟩ := Parser.bind_eq_done h
    obtain ⟨dot, hd, hkind, hproper, htext⟩ := adds_sign hs hdot
    obtain ⟨star, hs', hstarKind, -, -⟩ := adds_sign (hd.standsIn hs) hstar
    have hends : isPathKind star.kind = false := by rw [hstarKind]; decide
    exact ⟨_, hd.trans hs', .inr fun rest => .wildcard ⟨hkind, hproper, htext⟩ hends⟩
  rcases Parser.orElse_eq_done h with h | h
  · obtain ⟨_, u, has, hname⟩ := Parser.bind_eq_done h
    obtain ⟨word, mid, read, hword⟩ := Parser.readsToken_keyword hs has
    obtain ⟨-, c, mid', hread⟩ := Parser.readsToken_identifier (hword.standsIn hs) hname
    have hends : isPathKind word.kind = false := by rw [hword.kind]; decide
    exact ⟨_, hword.adds.trans hread.adds,
      .inr fun rest => .other fun c hc => Option.mem_some.mp hc ▸ hends⟩
  rcases Parser.orElse_eq_done h with h | h
  · exact ⟨[], adds_brokenDot hs h, .inl rfl⟩
  · cases h

/-- What follows the name up to the end of the directive. -/
theorem adds_importEnd (hs : s.StandsIn source) {a b : Unit}
    (hsuffix : Parser.optional Grammar.importSuffix s = .done a t)
    (hsemicolon : Parser.optional (Parser.sign ";") t = .done b u) :
    ∃ cs, Adds source s u cs ∧ IsSuffix source cs := by
  have hrest : ∃ cs, Adds source s t cs ∧ (cs = [] ∨ ∀ rest, IsSuffix source (cs ++ rest)) := by
    rcases Parser.optional_eq_done hsuffix with h | rfl
    · exact adds_importSuffix hs h
    · exact ⟨[], .refl source _, .inl rfl⟩
  obtain ⟨cs, hcs, hends⟩ := hrest
  have hlast : ∃ ds, Adds source t u ds ∧ IsSuffix source ds := by
    rcases Parser.optional_eq_done hsemicolon with h | rfl
    · obtain ⟨c, hadds, hkind, -, -⟩ := adds_sign (hcs.standsIn hs) h
      have hpath : isPathKind c.kind = false := by rw [hkind]; decide
      exact ⟨[c], hadds, .other fun d hd => Option.mem_some.mp hd ▸ hpath⟩
    · exact ⟨[], .refl source _, .other nofun⟩
  obtain ⟨ds, hds, hend⟩ := hlast
  refine ⟨cs ++ ds, hcs.trans hds, ?_⟩
  rcases hends with rfl | hends
  · exact hend
  · exact hends ds

/-- The parts of an import directive, before they are made a node. -/
def importParts : Parser Unit := do
  Parser.keyword "import"
  Grammar.qualifiedIdentifier
  Parser.optional Grammar.importSuffix
  Parser.optional (Parser.sign ";")

theorem adds_importParts (hs : s.StandsIn source) {a : Unit} (h : importParts s = .done a t) :
    ∃ word q suffix, Adds source s t (word :: q :: suffix) ∧ word.kind = "import" ∧
      IsQualified source q ∧ IsSuffix source suffix := by
  obtain ⟨_, u, hword, h⟩ := Parser.bind_eq_done h
  obtain ⟨_, v, hname, h⟩ := Parser.bind_eq_done h
  obtain ⟨_, w, hsuffix, hsemicolon⟩ := Parser.bind_eq_done h
  obtain ⟨word, mid, read, hw⟩ := Parser.readsToken_keyword hs hword
  obtain ⟨q, mid', hq, hreads, htrails⟩ := reads_qualifiedIdentifier (hw.standsIn hs) hname
  have hadds : Adds source u v [q] := adds_proper hreads hq.proper htrails
  obtain ⟨suffix, hend, hsuffix⟩ :=
    adds_importEnd (hadds.standsIn (hw.standsIn hs)) hsuffix hsemicolon
  exact ⟨word, q, suffix, (hw.adds.trans hadds).trans hend, hw.kind, hq, hsuffix⟩

theorem rest_ne_nil_of_keyword {text : String} (htext : text ≠ "") {a : Unit}
    (h : Parser.keyword text s = .done a t) : s.rest ≠ [] := by
  intro hnil
  obtain ⟨hword, -⟩ := Parser.guarded_eq_done h
  rw [hnil, beq_iff_eq] at hword
  exact htext (hword.symm.trans rfl)

/-- The node that is made of a frame has the parts of the frame, comments aside. -/
theorem reduce_proper {c : Concrete} (hc : c ∈ s.nodes) (hproper : c.head.extra = false)
    (kind : String) :
    ∃ comments n, Parser.reduce kind s = .done () { s with nodes := comments ++ [n] } ∧
      (∀ d ∈ comments ++ n.children, d ∈ s.nodes) ∧ n.kind = kind ∧
      Concrete.proper n.children = Concrete.proper s.nodes.reverse := by
  generalize hcomments : s.nodes.takeWhile Parser.isComment = comments
  generalize hrest : s.nodes.dropWhile Parser.isComment = rest
  have hsplit : s.nodes = comments ++ rest := by
    rw [← hcomments, ← hrest, List.takeWhile_append_dropWhile]
  have hall (d) (hd : d ∈ comments) : Parser.isComment d = true :=
    List.mem_takeWhile_imp (hcomments ▸ hd)
  cases rest with
  | nil =>
      rw [hsplit, List.append_nil] at hc
      exact absurd (hall c hc) (Bool.eq_false_iff.mp (isComment_of_proper hproper))
  | cons last before =>
      have hlast : Parser.isComment last = false := by
        have hhead := List.head_dropWhile_not Parser.isComment (l := s.nodes) (by simp [hrest])
        simpa [hrest] using hhead
      have hnone : Concrete.proper comments.reverse = [] := by
        refine List.filter_eq_nil_iff.mpr fun d hd => ?_
        have hcomment := hall d (List.mem_reverse.mp hd)
        simp [(Bool.and_eq_true_iff.mp hcomment).1]
      refine ⟨comments, _, Parser.reduceAs_eq hsplit hall hlast kind .plain false, ?_, rfl, ?_⟩
      · intro d hd
        rw [hsplit]
        rcases List.mem_append.mp hd with hd | hd
        · exact List.mem_append_left _ hd
        · have hd : d ∈ before.reverse ++ [last] := hd
          exact List.mem_append_right _ (by simpa [or_comm] using hd)
      · change Concrete.proper (before.reverse ++ [last]) = _
        rw [hsplit, List.reverse_append, List.reverse_cons, proper_append _ comments.reverse,
          hnone, List.append_nil]

theorem keeps_importParts {P : Concrete → Prop} :
    Parser.Keeps (Placed source P) importParts :=
  .seq (.keyword "import") <| .seq Grammar.keeps_qualifiedIdentifier <|
    .seq (.optional <| .or (.seq (.sign ".") (.sign "*")) <|
      .or (.seq (.keyword "as") (.identifier .plain)) <|
      .or (.frame (.seq (.sign ".") (.reduceAs .plain true))) .none)
    (.optional (.sign ";"))

/-- What the directive leaves is an import in the sense above, and its parts hold no other. -/
theorem keeps_importDirective :
    Parser.Keeps (Placed source fun c => ∃ word q suffix, IsImport source c word q suffix)
      Grammar.importDirective := by
  refine ⟨fun s h => ?_⟩
  have hkept := keeps_importParts.ends _ h.emptyFrame
  refine Parser.frame_ends h (Parser.bind_ends (p := importParts) hkept fun a u hrun => ?_)
  rw [hrun] at hkept
  have hu : Placed source _ u := hkept
  have hs : State.StandsIn source { s with nodes := [] } := by
    obtain ⟨_, v, hword, -⟩ := Parser.bind_eq_done hrun
    have htext : "import" ≠ "" := by decide
    exact h.aligned (rest_ne_nil_of_keyword (s := { s with nodes := [] }) htext hword)
  obtain ⟨word, q, suffix, ⟨-, added, hnodes, hproper⟩, hkind, hq, hsuffix⟩ :=
    adds_importParts hs hrun
  rw [List.append_nil] at hnodes
  have hmem : q ∈ u.nodes := by
    have hq' : q ∈ Concrete.proper added := by simp [hproper]
    rw [hnodes]
    exact List.mem_reverse.mpr (List.mem_filter.mp hq').1
  obtain ⟨comments, n, hreduce, hparts, -, hchildren⟩ := reduce_proper hmem hq.proper "import"
  rw [hreduce]
  rw [hnodes, List.reverse_reverse, hproper] at hchildren
  refine ⟨hu.aligned, fun c hc => ?_⟩
  rcases List.mem_append.mp hc with hc | hc
  · exact hu.imports c (hparts c (List.mem_append_left _ hc))
  · obtain rfl := List.mem_singleton.mp hc
    cases c with
    | node head children =>
        exact .node (fun _ _ => ⟨word, q, suffix, hchildren, hkind, hq, hsuffix⟩)
          fun d hd => hu.imports d (hparts d (List.mem_append_right _ hd))

/-- Every import in the tree of a source is one that the directive leaves. -/
theorem imports_parseConcrete (source : List Char) :
    (parseConcrete source).ImportsAre
      fun c => ∃ word q suffix, IsImport source c word q suffix :=
  importsAre_parseConcrete source keeps_importDirective

end NamingLint.Kotlin

import NamingLint.Proofs.GrammarInvariants

/-!
What a parser reads of the source, and what it leaves of it in the tree. Where the state stands in
the source, the text between two states is what the nodes read in between cover, up to white space;
blanks belong to no node, and comments to nodes of their own. Only white space is allowed for: a
character that a parser skips otherwise, as in a character literal, is not read in this sense.
-/

namespace NamingLint

namespace Text

theorem removeSpace_append (a b : List Char) :
    removeSpace (a ++ b) = removeSpace a ++ removeSpace b :=
  List.filter_append ..

theorem dropOctets_octets (a b : List Char) : dropOctets (octets a) (a ++ b) = some b := by
  induction a with
  | nil => cases b <;> rfl
  | cons c a ih =>
      obtain ⟨n, hn⟩ := Nat.exists_eq_add_one_of_ne_zero (Nat.ne_of_gt c.utf8Size_pos)
      have hle : c.utf8Size ≤ n + octets a + 1 := by omega
      have hrest : n + octets a + 1 - c.utf8Size = octets a := by omega
      rw [octets_cons, show c.utf8Size + octets a = n + octets a + 1 by omega, List.cons_append,
        dropOctets, if_pos hle, hrest, ih]

theorem takeOctets_octets (a b : List Char) : takeOctets (octets a) (a ++ b) = some a := by
  induction a with
  | nil => cases b <;> rfl
  | cons c a ih =>
      obtain ⟨n, hn⟩ := Nat.exists_eq_add_one_of_ne_zero (Nat.ne_of_gt c.utf8Size_pos)
      have hle : c.utf8Size ≤ n + octets a + 1 := by omega
      have hrest : n + octets a + 1 - c.utf8Size = octets a := by omega
      rw [octets_cons, show c.utf8Size + octets a = n + octets a + 1 by omega, List.cons_append,
        takeOctets, if_pos hle, hrest, ih]
      rfl

theorem slice_octets (a b c : List Char) :
    slice (a ++ b ++ c) (octets a) (octets a + octets b) = b := by
  unfold slice slice?
  rw [if_pos (Nat.le_add_right _ _), List.append_assoc, dropOctets_octets, Nat.add_sub_cancel_left]
  simp [takeOctets_octets]

end Text

namespace Kotlin

variable {source : List Char} {s t u : State} {a b : List Concrete}

/-- The text left to read stands in the source at the offset of the state. -/
def State.StandsIn (source : List Char) (s : State) : Prop :=
  ∃ before, source = before ++ s.rest ∧ Text.octets before = s.offset

theorem State.StandsIn.slice (hs : s.StandsIn source) {read rest : List Char}
    (hrest : s.rest = read ++ rest) :
    Text.slice source s.offset (s.offset + Text.octets read) = read := by
  obtain ⟨before, hsource, hbefore⟩ := hs
  rw [← hbefore, hsource, hrest, ← List.append_assoc, Text.slice_octets]

/-- What a node adds to a text from which white space is removed. -/
def Concrete.solid (source : List Char) (c : Concrete) : List Char :=
  Text.removeSpace (c.text source)

/-- From one state to another, some nodes are read, and between them nothing but white space. -/
structure Reads (source : List Char) (s t : State) (added : List Concrete) : Prop where
  text : ∃ read, s.rest = read ++ t.rest ∧ t.offset = s.offset + Text.octets read ∧
    Text.removeSpace read = added.flatMap (Concrete.solid source)
  nodes : t.nodes = added.reverse ++ s.nodes

namespace Reads

theorem refl (source : List Char) (s : State) : Reads source s s [] :=
  ⟨⟨[], rfl, rfl, rfl⟩, rfl⟩

theorem trans (h : Reads source s t a) (h' : Reads source t u b) :
    Reads source s u (a ++ b) := by
  obtain ⟨⟨read, hrest, hoffset, hsolid⟩, hnodes⟩ := h
  obtain ⟨⟨read', hrest', hoffset', hsolid'⟩, hnodes'⟩ := h'
  refine ⟨⟨read ++ read', ?_, ?_, ?_⟩, ?_⟩
  · rw [hrest, hrest', List.append_assoc]
  · rw [hoffset', hoffset, Text.octets_append, Nat.add_assoc]
  · rw [Text.removeSpace_append, hsolid, hsolid', List.flatMap_append]
  · rw [hnodes', hnodes, List.reverse_append, List.append_assoc]

theorem standsIn (h : Reads source s t a) (hs : s.StandsIn source) : t.StandsIn source := by
  obtain ⟨⟨read, hrest, hoffset, -⟩, -⟩ := h
  obtain ⟨before, hsource, hbefore⟩ := hs
  refine ⟨before ++ read, ?_, ?_⟩
  · rw [hsource, hrest, List.append_assoc]
  · rw [Text.octets_append, hbefore, hoffset]

/-- The slice between the two states is made of the texts of the nodes. -/
theorem removeSpace_slice (h : Reads source s t a) (hs : s.StandsIn source) :
    Text.removeSpace (Text.slice source s.offset t.offset) =
      a.flatMap (Concrete.solid source) := by
  obtain ⟨⟨read, hrest, hoffset, hsolid⟩, -⟩ := h
  rw [← hsolid, hoffset, hs.slice hrest]

end Reads

/-- A comment as the parser leaves it; it shows where white space is removed. -/
structure IsComment (source : List Char) (c : Concrete) : Prop where
  kind : c.kind = "block_comment" ∨ c.kind = "line_comment"
  extra : c.head.extra = true
  solid : c.solid source ≠ []

/-- Between the two states there are only blanks and comments. -/
def Trails (source : List Char) (s t : State) : Prop :=
  ∃ comments, Reads source s t comments ∧ ∀ c ∈ comments, IsComment source c

/-- A token of a kind and text is read, and then blanks and comments. -/
structure ReadsToken (source : List Char) (kind : String) (text : List Char) (c : Concrete)
    (s mid t : State) : Prop where
  kind : c.kind = kind
  proper : c.head.extra = false
  text : c.text source = text
  start : c.head.start = s.offset
  stop : c.head.stop = mid.offset
  reads : Reads source s mid [c]
  trails : Trails source mid t

namespace Parser

variable {α β : Type}

theorem bind_eq_done {p : Parser α} {f : α → Parser β} {b : β}
    (h : (p >>= f) s = .done b t) : ∃ a u, p s = .done a u ∧ f a u = .done b t := by
  change Parser.bind p f s = _ at h
  unfold Parser.bind at h
  cases hs : p s with
  | done a u =>
      rw [hs] at h
      exact ⟨a, u, rfl, h⟩
  | mismatch | unclosed _ =>
      rw [hs] at h
      cases h

theorem guarded_eq_done {f : State → α} {b : α → Bool} {q : α → Parser β} {x : β}
    (h : (look f >>= fun a => guard (b a) >>= fun _ => q a) s = .done x t) :
    b (f s) = true ∧ q (f s) s = .done x t := by
  obtain ⟨a, u, hlook, h⟩ := bind_eq_done h
  obtain ⟨rfl, rfl⟩ := Outcome.done.inj hlook
  obtain ⟨_, u, hguard, h⟩ := bind_eq_done h
  cases hb : b (f s) with
  | false =>
      rw [hb] at hguard
      cases hguard
  | true =>
      rw [hb] at hguard
      obtain ⟨-, rfl⟩ := Outcome.done.inj hguard
      exact ⟨rfl, h⟩

theorem orElse_eq_done {p q : Parser α} {a : α} (h : orElse p q s = .done a t) :
    p s = .done a t ∨ q s = .done a t := by
  unfold orElse at h
  cases hs : p s with
  | mismatch =>
      rw [hs] at h
      exact .inr h
  | done _ _ | unclosed _ =>
      rw [hs] at h
      exact .inl h

theorem optional_eq_done {p : Parser Unit} {a : Unit} (h : optional p s = .done a t) :
    p s = .done a t ∨ t = s :=
  (orElse_eq_done h).imp_right fun h => (Outcome.done.inj h).2.symm

theorem frame_eq_done {p : Parser α} {a : α} (h : frame p s = .done a t) :
    ∃ u, p { s with nodes := [] } = .done a u ∧ t = { u with nodes := u.nodes ++ s.nodes } := by
  unfold frame at h
  cases hs : p { s with nodes := [] } with
  | done b u =>
      rw [hs] at h
      obtain ⟨rfl, rfl⟩ := Outcome.done.inj h
      exact ⟨u, rfl, rfl⟩
  | mismatch | unclosed _ =>
      rw [hs] at h
      cases h

/-- A property that every run of a parser keeps holds after its repetition. -/
theorem many_eq_done {p : Parser Unit} {I : State → Prop} {a : Unit}
    (hstep : ∀ s t, I s → p s = .done () t → I t) (h : many p s = .done a t) (hs : I s) : I t := by
  unfold many at h
  generalize s.size + 1 = n at h
  induction n generalizing s with
  | zero =>
      obtain ⟨-, rfl⟩ := Outcome.done.inj h
      exact hs
  | succ n ih =>
      unfold manyWithin at h
      cases hp : p s with
      | mismatch =>
          rw [hp] at h
          obtain ⟨-, rfl⟩ := Outcome.done.inj h
          exact hs
      | unclosed _ =>
          rw [hp] at h
          cases h
      | done b next =>
          rw [hp] at h
          simp only at h
          split at h
          · obtain ⟨-, rfl⟩ := Outcome.done.inj h
            exact hs
          · exact ih (hstep s next hs hp) h

/-- What a frame leaves when it is made a node: the comments at its end stay behind. -/
theorem reduceAs_eq {comments before : List Concrete} {last : Concrete}
    (hnodes : s.nodes = comments ++ last :: before) (hcomments : ∀ c ∈ comments, isComment c = true)
    (hlast : isComment last = false) (kind : String) (role : Role) (extra : Bool) :
    reduceAs kind role extra s = .done () { s with
      nodes := comments ++ [.node
        { kind, named := true, extra, role,
          start := ((before.reverse ++ [last]).headD last).head.start, stop := last.head.stop }
        (before.reverse ++ [last])] } := by
  unfold reduceAs
  have hspan : s.nodes.span isComment = (comments, last :: before) := by
    rw [hnodes, List.span_eq_takeWhile_dropWhile, List.takeWhile_append_of_pos hcomments,
      List.dropWhile_append_of_pos hcomments]
    simp [hlast]
  rw [hspan]

/-- The range of the leaf is put into its head. -/
def Ranges (head : Nat → Nat → Head) : Prop :=
  ∀ start stop, (head start stop).start = start ∧ (head start stop).stop = stop

theorem ranges_anonymous (text : String) : Ranges (anonymous text) :=
  fun _ _ => ⟨rfl, rfl⟩

theorem ranges_named (kind : String) (role : Role) : Ranges (named kind role) :=
  fun _ _ => ⟨rfl, rfl⟩

theorem ranges_comment (kind : String) : Ranges (comment kind) :=
  fun _ _ => ⟨rfl, rfl⟩

theorem reads_leaf (hs : s.StandsIn source) {head : Nat → Nat → Head} (hhead : Ranges head)
    {length : Nat} {a : Unit} (h : leaf head length s = .done a t) :
    Reads source s t [.node (head s.offset t.offset) []] ∧
      (Concrete.node (head s.offset t.offset) []).text source = s.rest.take length := by
  obtain ⟨-, rfl⟩ := Outcome.done.inj h
  have hrest : s.rest = s.rest.take length ++ s.rest.drop length :=
    (List.take_append_drop length s.rest).symm
  have htext : (Concrete.node (head s.offset (s.offset + Text.octets (s.rest.take length))) []).text
      source = s.rest.take length := by
    obtain ⟨hstart, hstop⟩ := hhead s.offset (s.offset + Text.octets (s.rest.take length))
    change Text.slice source (head _ _).start (head _ _).stop = _
    rw [hstart, hstop, hs.slice hrest]
  refine ⟨⟨⟨s.rest.take length, hrest, rfl, ?_⟩, rfl⟩, htext⟩
  rw [List.flatMap_singleton, Concrete.solid, htext]

/-- A comment begins with a character that is not white space. -/
theorem solid_comment {text : List Char} {n : Nat} (hn : n ≠ 0)
    (h : n = Lexis.lineComment text ∨ n = Lexis.blockComment text) :
    Text.removeSpace (text.take n) ≠ [] := by
  have hslash : ∃ rest, text = '/' :: rest := by
    rcases h with rfl | rfl
    · unfold Lexis.lineComment at hn
      split at hn
      · exact ⟨_, rfl⟩
      · exact absurd rfl hn
    · unfold Lexis.blockComment at hn
      split at hn
      · exact ⟨_, rfl⟩
      · exact absurd rfl hn
  obtain ⟨rest, rfl⟩ := hslash
  obtain ⟨m, rfl⟩ := Nat.exists_eq_succ_of_ne_zero hn
  have hsolid : Text.isSpace '/' = false := by decide
  simp [Text.removeSpace, hsolid]

theorem trails_comment (hs : s.StandsIn source) {kind : String} {n : Nat} {a : Unit}
    (hkind : kind = "block_comment" ∨ kind = "line_comment")
    (hsolid : Text.removeSpace (s.rest.take n) ≠ []) (h : leaf (comment kind) n s = .done a t) :
    Trails source s t := by
  obtain ⟨hreads, htext⟩ := reads_leaf hs (ranges_comment kind) h
  refine ⟨_, hreads, List.forall_mem_singleton.mpr ⟨hkind, rfl, ?_⟩⟩
  rwa [Concrete.solid, htext]

theorem isSpace_of_isBlank {c : Char} (h : Lexis.isBlank c = true) : Text.isSpace c = true := by
  simp only [Lexis.isBlank, Bool.or_eq_true, beq_iff_eq, Bool.and_eq_true, decide_eq_true_eq] at h
  rcases h with rfl | ⟨hle, hge⟩
  · decide
  · have hle : 0x9 ≤ c.toNat := UInt32.le_iff_toNat_le.mp hle
    have hge : c.toNat ≤ 0xD := UInt32.le_iff_toNat_le.mp hge
    simp [Text.isSpace, Text.whiteSpace, Text.Intervals.contains, hle, hge]

/-- A blank is read without a node. -/
theorem reads_blank {c : Char} {rest : List Char} (hrest : s.rest = c :: rest)
    (hblank : Lexis.isBlank c = true) {a : Unit} (h : skip 1 s = .done a t) :
    Reads source s t [] := by
  obtain ⟨-, rfl⟩ := Outcome.done.inj h
  refine ⟨⟨[c], ?_, ?_, ?_⟩, rfl⟩
  · rw [hrest]
    rfl
  · rw [hrest]
    rfl
  · simp [Text.removeSpace, isSpace_of_isBlank hblank]

theorem trails_triviaItem (hs : s.StandsIn source) {a : Unit} (h : triviaItem s = .done a t) :
    Trails source s t := by
  obtain ⟨text, u, hlook, h⟩ := bind_eq_done h
  obtain ⟨rfl, rfl⟩ := Outcome.done.inj hlook
  cases hrest : s.rest with
  | nil =>
      rw [hrest] at h
      cases h
  | cons c rest =>
      rw [hrest] at h
      simp only at h
      split at h
      · next hblank =>
          obtain ⟨_, u, hskip, h⟩ := bind_eq_done h
          have hreads : Reads source s u [] := reads_blank hrest hblank hskip
          refine ⟨[], ?_, nofun⟩
          cases hbreak : c == '\n' with
          | true =>
              rw [hbreak] at h
              obtain ⟨-, rfl⟩ := Outcome.done.inj h
              exact ⟨hreads.text, hreads.nodes⟩
          | false =>
              rw [hbreak] at h
              obtain ⟨-, rfl⟩ := Outcome.done.inj h
              exact hreads
      · have hsolid {n : Nat} (hn : n + 1 = Lexis.lineComment (c :: rest) ∨
            n + 1 = Lexis.blockComment (c :: rest)) :
            Text.removeSpace (s.rest.take (n + 1)) ≠ [] := by
          rw [hrest]
          exact solid_comment (Nat.succ_ne_zero n) hn
        cases hline : Lexis.lineComment (c :: rest) with
        | succ n =>
            rw [hline] at h
            exact trails_comment hs (.inr rfl) (hsolid (.inl hline.symm)) h
        | zero =>
            cases hblock : Lexis.blockComment (c :: rest) with
            | zero =>
                rw [hline, hblock] at h
                cases h
            | succ n =>
                rw [hline, hblock] at h
                exact trails_comment hs (.inl rfl) (hsolid (.inr hblock.symm)) h

theorem trails_trivia (hs : s.StandsIn source) {a : Unit} (h : trivia s = .done a t) :
    Trails source s t := by
  obtain ⟨_, u, hbroke, h⟩ := bind_eq_done h
  obtain ⟨-, rfl⟩ := Outcome.done.inj hbroke
  have hstart : Trails source s { s with broke := false } :=
    ⟨[], ⟨(Reads.refl source s).text, rfl⟩, nofun⟩
  refine many_eq_done (fun u v hu hstep => ?_) h hstart
  obtain ⟨comments, hreads, hcomments⟩ := hu
  obtain ⟨last, hlast, hcomment⟩ := trails_triviaItem (hreads.standsIn hs) hstep
  exact ⟨comments ++ last, hreads.trans hlast,
    fun c hc => (List.mem_append.mp hc).elim (hcomments c) (hcomment c)⟩

/-- A token leaves its text and kind, and what follows it up to the next. -/
theorem readsToken (hs : s.StandsIn source) {head : Nat → Nat → Head} (hhead : Ranges head)
    (hproper : ∀ start stop, (head start stop).extra = false) {kind : String}
    (hkind : ∀ start stop, (head start stop).kind = kind) {length : Nat} {a : Unit}
    (h : token head length s = .done a t) :
    ∃ c mid, ReadsToken source kind (s.rest.take length) c s mid t := by
  obtain ⟨_, mid, hleaf, h⟩ := bind_eq_done h
  obtain ⟨hreads, htext⟩ := reads_leaf hs hhead hleaf
  obtain ⟨hstart, hstop⟩ := hhead s.offset mid.offset
  exact ⟨.node (head s.offset mid.offset) [], mid, hkind _ _, hproper _ _, htext, hstart, hstop,
    hreads, trails_trivia (hreads.standsIn hs) h⟩

theorem readsToken_sign (hs : s.StandsIn source) {text : String} {a : Unit}
    (h : sign text s = .done a t) :
    ∃ c mid, ReadsToken source text text.toList c s mid t := by
  obtain ⟨hstarts, h⟩ := guarded_eq_done h
  obtain ⟨rest, hrest⟩ := List.isPrefixOf_iff_prefix.mp hstarts
  have htake : s.rest.take text.length = text.toList := by
    rw [← hrest, ← String.length_toList, List.take_left]
  rw [← htake]
  exact readsToken hs (ranges_anonymous text) (fun _ _ => rfl) (fun _ _ => rfl) h

theorem readsToken_keyword (hs : s.StandsIn source) {text : String} {a : Unit}
    (h : keyword text s = .done a t) :
    ∃ c mid read, ReadsToken source text read c s mid t := by
  obtain ⟨-, h⟩ := guarded_eq_done h
  obtain ⟨c, mid, hread⟩ :=
    readsToken hs (ranges_anonymous text) (fun _ _ => rfl) (fun _ _ => rfl) h
  exact ⟨c, mid, _, hread⟩

theorem readsToken_identifier (hs : s.StandsIn source) {role : Role} {a : Unit}
    (h : identifier role s = .done a t) :
    Lexis.identifier s.rest ≠ 0 ∧ ∃ c mid,
      ReadsToken source "identifier" (s.rest.take (Lexis.identifier s.rest)) c s mid t := by
  obtain ⟨hlength, h⟩ := guarded_eq_done h
  exact ⟨by simpa using hlength,
    readsToken hs (ranges_named "identifier" role) (fun _ _ => rfl) (fun _ _ => rfl) h⟩

end Parser
end Kotlin
end NamingLint

import GraphAlgebra.Proofs.Sexp.Grammar
/-!
# Reading nested forms

Reading with a stack of frames agrees with the grammar: it succeeds for just the token sequences
that spell one form of bounded depth, and gives that form. The completeness half goes along a
derivation (`Reads.readNode_eq`). The soundness half goes along the pieces and carries `Opened`,
which says that the tokens so far open the frames and spell their parts (`readNode_sound`). Main
statement: `Node.ofTokens?_accepts`, in which the depth is counted by the brackets that are open.
-/

namespace GraphAlgebra

namespace Sexp

/-! ### Reading what the grammar allows -/

/-- Goes on with a form that is read: into the innermost frame, or as the result. -/
def settle (fs : List Frame) (n : Node) (ps : List (Piece × Nat)) :
    Except Fault (Node × List (Piece × Nat)) :=
  match fs with
  | [] => .ok (n, ps)
  | f :: fs => readNode (f.add n :: fs) ps

theorem readNode_atom (fs : List Frame) (a : Atom) (pos : Nat) (ps : List (Piece × Nat)) :
    readNode fs ((.atom a, pos) :: ps) = settle fs (.atom a pos) ps := by
  cases fs <;> simp [readNode, settle]

theorem readNode_opening {fs : List Frame} (h : fs.length ≠ maxNesting) (b : Bracket) (pos : Nat)
    (ps : List (Piece × Nat)) :
    readNode fs ((.opening b, pos) :: ps) = readNode (⟨b, pos, []⟩ :: fs) ps := by
  cases fs <;> simp [readNode] <;> simp_all

theorem readNode_closing (f : Frame) (fs : List Frame) (pos : Nat) (ps : List (Piece × Nat)) :
    readNode (f :: fs) ((.closing f.bracket, pos) :: ps) = settle fs f.close ps := by
  cases fs <;> simp [readNode, settle]

def Frame.addAll (f : Frame) (ns : List Node) : Frame :=
  { f with items := ns.reverse ++ f.items }

mutual

theorem Reads.readNode_eq {ps : List Placed} {n : Node} (h : Reads ps n) (fs : List Frame)
    (hd : fs.length + n.depth ≤ maxNesting) {more : List Placed} (hmore : Unsuffixed more) :
    readNode fs (pieces (ps ++ more)) = settle fs n (pieces more) := by
  match ps, n, h with
  | _, _, .atom h => rw [List.cons_append, pieces_of_denotes h hmore, readNode_atom]
  | _, _, @Reads.node ps ns b pos close h =>
      rw [Node.depth_node] at hd
      rw [List.cons_append, List.append_assoc, List.singleton_append, pieces_opening,
        readNode_opening (by omega),
        h.readNode_eq _ _ (by omega) (unsuffixed_closing b close more), pieces_closing]
      have hclose := readNode_closing (Frame.addAll ⟨b, pos, []⟩ ns) fs close (pieces more)
      rw [Frame.close_eq] at hclose
      simpa [Frame.addAll] using hclose

theorem ReadsAll.readNode_eq {ps : List Placed} {ns : List Node} (h : ReadsAll ps ns) (f : Frame)
    (fs : List Frame) (hd : fs.length + 1 + Node.depthAll ns ≤ maxNesting) {more : List Placed}
    (hmore : Unsuffixed more) :
    readNode (f :: fs) (pieces (ps ++ more)) = readNode (f.addAll ns :: fs) (pieces more) := by
  match ps, ns, h with
  | _, _, .nil => rfl
  | _, _, @ReadsAll.cons ps qs n ns h hs =>
      simp only [Node.depthAll] at hd
      rw [List.append_assoc, h.readNode_eq (f :: fs) (by simp only [List.length_cons]; omega)
        (hs.unsuffixed hmore)]
      simp only [settle]
      rw [hs.readNode_eq _ fs (by omega) hmore]
      simp [Frame.addAll, Frame.add]

end

/-! ### Nothing else is read -/

/-- The tokens that open some frames and spell their parts so far. -/
inductive Opened : List Placed → List Frame → Prop
  | nil : Opened [] []
  | push {ps qs : List Placed} {fs : List Frame} {ns : List Node} (b : Bracket) (pos : Nat)
      (h : Opened ps fs) (hn : ReadsAll qs ns)
      (hd : fs.length + 1 + Node.depthAll ns ≤ maxNesting) :
      Opened (ps ++ ⟨b.opening, pos⟩ :: qs) (⟨b, pos, ns.reverse⟩ :: fs)

theorem Opened.length_le {done : List Placed} {fs : List Frame} (h : Opened done fs) :
    fs.length ≤ maxNesting := by
  cases h with
  | nil => exact Nat.zero_le _
  | push b pos h hn hd =>
      simp only [List.length_cons]
      omega

/-- A form goes into the innermost frame, or it is all there is. -/
theorem Opened.settle {done ps : List Placed} {fs : List Frame} {n : Node} (h : Opened done fs)
    (hn : Reads ps n) (hd : fs.length + n.depth ≤ maxNesting) :
    (fs = [] ∧ done = []) ∨ ∃ f fs', fs = f :: fs' ∧ Opened (done ++ ps) (f.add n :: fs') := by
  cases h with
  | nil => exact .inl ⟨rfl, rfl⟩
  | @push ps₀ qs fs ns b pos h hns hd' =>
      refine .inr ⟨_, fs, rfl, ?_⟩
      have hdepth : fs.length + 1 + Node.depthAll (ns ++ [n]) ≤ maxNesting := by
        simp only [List.length_cons] at hd
        simp only [Node.depthAll_append, Node.depthAll]
        omega
      have hpush := Opened.push b pos h (hns.concat hn) hdepth
      simpa [Frame.add] using hpush

theorem Opened.close {done : List Placed} {f : Frame} {fs : List Frame} (h : Opened done (f :: fs))
    (pos : Nat) :
    ∃ before ps, done = before ++ ps ∧ Opened before fs ∧
      Reads (ps ++ [⟨f.bracket.closing, pos⟩]) f.close ∧
      fs.length + f.close.depth ≤ maxNesting := by
  cases h with
  | @push before qs fs ns b pos' h hns hd =>
      refine ⟨before, ⟨b.opening, pos'⟩ :: qs, rfl, h, ?_, ?_⟩
      · rw [Frame.close_eq, List.reverse_reverse]
        exact Reads.node b pos' pos hns
      · rw [Frame.close_eq, Node.depth_node, List.reverse_reverse]
        omega

theorem eq_opening_of_pieceOf {t : Token} {b : Bracket} (h : pieceOf t = .opening b) :
    t = b.opening := by
  cases t <;> simp only [pieceOf, Piece.opening.injEq, reduceCtorEq] at h
  case leftParen => rw [← h]; rfl
  case leftBracket => rw [← h]; rfl
  case word name =>
    split at h
    · cases h
    · split at h <;> cases h

theorem eq_closing_of_pieceOf {t : Token} {b : Bracket} (h : pieceOf t = .closing b) :
    t = b.closing := by
  cases t <;> simp only [pieceOf, Piece.closing.injEq, reduceCtorEq] at h
  case rightParen => rw [← h]; rfl
  case rightBracket => rw [← h]; rfl
  case word name =>
    split at h
    · cases h
    · split at h <;> cases h

/-- What is read was spelled by the tokens up to its end. -/
def ReadFrom (done ps : List Placed) (n : Node) (r : List (Piece × Nat)) : Prop :=
  ∃ used rest, ps = used ++ rest ∧ r = pieces rest ∧ Reads (done ++ used) n ∧
    n.depth ≤ maxNesting

/-- One more form is read from some tokens, and the rest is read from what follows them. -/
theorem Opened.readFrom_settle {before tokens ps : List Placed} {fs : List Frame} {m n : Node}
    {r : List (Piece × Nat)} (hopened : Opened before fs) (hm : Reads tokens m)
    (hd : fs.length + m.depth ≤ maxNesting) (h : Sexp.settle fs m (pieces ps) = .ok (n, r))
    (ih : ∀ fs, readNode fs (pieces ps) = .ok (n, r) → Opened (before ++ tokens) fs →
      ReadFrom (before ++ tokens) ps n r) :
    ReadFrom (before ++ tokens) ps n r := by
  rcases hopened.settle hm hd with ⟨rfl, rfl⟩ | ⟨f, fs', rfl, hadd⟩
  · obtain ⟨rfl, rfl⟩ : m = n ∧ pieces ps = r := by simpa [Sexp.settle] using h
    exact ⟨[], ps, rfl, rfl, by simpa using hm, by simpa using hd⟩
  · exact ih _ h hadd

theorem ReadFrom.of_append {done tokens ps : List Placed} {n : Node} {r : List (Piece × Nat)}
    (h : ReadFrom (done ++ tokens) ps n r) : ReadFrom done (tokens ++ ps) n r := by
  obtain ⟨used, rest, rfl, hr, hreads, hd⟩ := h
  exact ⟨tokens ++ used, rest, by simp, hr, by simpa using hreads, hd⟩

theorem readFrom_of_atom {fs : List Frame} {done ps tokens : List Placed} {p : Placed} {a : Atom}
    {n : Node} {r : List (Piece × Nat)} (ha : Denotes ((p :: tokens).map Placed.token) a)
    (hopened : Opened done fs)
    (h : readNode fs ((.atom a, p.offset) :: pieces ps) = .ok (n, r))
    (ih : ∀ {fs : List Frame} {done : List Placed}, readNode fs (pieces ps) = .ok (n, r) →
      Opened done fs → ReadFrom done ps n r) : ReadFrom done (p :: tokens ++ ps) n r := by
  rw [readNode_atom] at h
  refine ReadFrom.of_append (hopened.readFrom_settle (.atom ha) ?_ h fun fs h ho => ih h ho)
  simpa using hopened.length_le

theorem readFrom_of_closing {f : Frame} {fs : List Frame} {done ps : List Placed} {pos : Nat}
    {n : Node} {r : List (Piece × Nat)} (hopened : Opened done (f :: fs))
    (h : readNode (f :: fs) ((.closing f.bracket, pos) :: pieces ps) = .ok (n, r))
    (ih : ∀ {fs : List Frame} {done : List Placed}, readNode fs (pieces ps) = .ok (n, r) →
      Opened done fs → ReadFrom done ps n r) :
    ReadFrom done (⟨f.bracket.closing, pos⟩ :: ps) n r := by
  rw [readNode_closing] at h
  obtain ⟨before, tokens, rfl, hbefore, hreads, hd⟩ := hopened.close pos
  have hfrom := hbefore.readFrom_settle hreads hd h fun fs h ho => ih h ho
  rw [← List.append_assoc] at hfrom
  exact hfrom.of_append

theorem readNode_sound {fs : List Frame} {done ps : List Placed} {n : Node}
    {r : List (Piece × Nat)} (h : readNode fs (pieces ps) = .ok (n, r)) (hopened : Opened done fs) :
    ReadFrom done ps n r := by
  -- A string and its suffix are one piece, so the induction is on the pieces.
  induction ps using pieces.induct generalizing fs done with
  | case1 text pos tag pos' ts ih =>
      rw [pieces] at h
      have htokens : Denotes ([⟨.string text, pos⟩, ⟨.language tag, pos'⟩].map Placed.token) _ :=
        .tagged text tag
      exact readFrom_of_atom htokens hopened h ih
  | case2 text pos pos' datatype pos'' ts ih =>
      rw [pieces] at h
      have htokens : Denotes ([⟨.string text, pos⟩, ⟨.doubleCaret, pos'⟩,
          ⟨.iri datatype, pos''⟩].map Placed.token) _ := .withDatatype text datatype
      exact readFrom_of_atom htokens hopened h ih
  | case3 text pos pos' ts hno ih =>
      rw [pieces] at h
      · cases fs <;> simp [readNode] at h
      · exact hno
  | case4 t pos ts h₁ h₂ h₃ ih =>
      rw [pieces] at h
      · cases hp : pieceOf t with
        | atom a =>
            rw [hp] at h
            have htokens : Denotes ([⟨t, pos⟩].map Placed.token) a := .single hp
            exact readFrom_of_atom htokens hopened h ih
        | fault c =>
            rw [hp] at h
            cases fs <;> simp [readNode] at h
        | opening b =>
            obtain rfl := eq_opening_of_pieceOf hp
            rw [hp] at h
            have hle := hopened.length_le
            by_cases hmax : fs.length = maxNesting
            · cases fs <;> simp [readNode] at h <;> simp_all
            · rw [readNode_opening hmax] at h
              have hd : fs.length + 1 + Node.depthAll [] ≤ maxNesting := by
                simp only [Node.depthAll]
                omega
              exact (ih h (Opened.push b pos hopened .nil hd)).of_append
        | closing b =>
            obtain rfl := eq_closing_of_pieceOf hp
            rw [hp] at h
            cases fs with
            | nil => simp [readNode] at h
            | cons f fs =>
                by_cases hb : f.bracket = b
                · subst hb
                  exact readFrom_of_closing hopened h ih
                · cases fs <;> simp [readNode, hb] at h
      all_goals assumption
  | case5 => cases fs <;> simp [pieces, readNode] at h

theorem pieces_ne_nil (p : Placed) (ps : List Placed) : pieces (p :: ps) ≠ [] := by
  rw [pieces.eq_def]
  split <;> simp_all

/-- Reading succeeds for just the tokens that spell one form of bounded depth, and gives that
form. -/
theorem readNode_pieces_iff {ps : List Placed} {n : Node} :
    readNode [] (pieces ps) = .ok (n, []) ↔ Reads ps n ∧ n.depth ≤ maxNesting := by
  constructor
  · intro h
    obtain ⟨used, rest, rfl, hr, hreads, hd⟩ := readNode_sound h .nil
    obtain rfl : rest = [] := by
      cases rest with
      | nil => rfl
      | cons p rest => exact absurd hr.symm (pieces_ne_nil p rest)
    exact ⟨by simpa using hreads, hd⟩
  · rintro ⟨h, hd⟩
    have hread := h.readNode_eq [] (by simpa using hd) unsuffixed_nil
    simpa [settle, pieces] using hread

theorem Node.ofTokens?_eq_ok_iff {size : Nat} {ps : List Placed} {n : Node} :
    Node.ofTokens? size ps = .ok n ↔ Reads ps n ∧ n.depth ≤ maxNesting := by
  rw [← readNode_pieces_iff]
  cases ps with
  | nil => simp [Node.ofTokens?, pieces, readNode]
  | cons p ps =>
      rw [Node.ofTokens?]
      · split
        next h => simp [h]
        next m h => simp [h]
        next m q pos qs h => simp [h]
      · exact List.cons_ne_nil p ps

theorem Node.ofText?_eq_ok_iff {text : String} {n : Node} :
    Node.ofText? text = .ok n ↔
      ∃ ps, Token.tokens text = .ok ps ∧ Reads ps n ∧ n.depth ≤ maxNesting := by
  unfold Node.ofText?
  cases Token.tokens text with
  | error offset => simp
  | ok ps => simp [Node.ofTokens?_eq_ok_iff]

/-! ### Nesting -/

def openAfter (k : Nat) : Token → Nat
  | .leftParen | .leftBracket => k + 1
  | .rightParen | .rightBracket => k - 1
  | _ => k

/-- The greatest number of brackets that are open at once, when `k` of them are open at first. -/
def peak (k : Nat) : List Token → Nat
  | [] => k
  | t :: ts => max k (peak (openAfter k t) ts)

/-- The greatest number of brackets of a text that are open at once. -/
def nesting (text : String) : Nat :=
  match Token.tokens text with
  | .ok ps => peak 0 (ps.map Placed.token)
  | .error _ => 0

theorem le_peak (k : Nat) (ts : List Token) : k ≤ peak k ts := by
  cases ts with
  | nil => exact Nat.le_refl k
  | cons t ts => exact Nat.le_max_left _ _

@[simp] theorem openAfter_opening (k : Nat) (b : Bracket) : openAfter k b.opening = k + 1 := by
  cases b <;> rfl

@[simp] theorem openAfter_closing (k : Nat) (b : Bracket) : openAfter k b.closing = k - 1 := by
  cases b <;> rfl

theorem peak_cons_of_eq {k : Nat} {t : Token} (h : openAfter k t = k) (ts : List Token) :
    peak k (t :: ts) = peak k ts := by
  rw [peak, h]
  exact Nat.max_eq_right (le_peak k ts)

theorem Denotes.peak_append {ts : List Token} {a : Atom} (h : Denotes ts a) (k : Nat)
    (more : List Token) : peak k (ts ++ more) = peak k more := by
  cases h using Denotes.pieceCases with
  | single t a h =>
      refine peak_cons_of_eq ?_ more
      cases t <;> first | rfl | simp [pieceOf] at h
  | tagged s tag =>
      rw [List.cons_append, peak_cons_of_eq rfl, List.cons_append, peak_cons_of_eq rfl]
      rfl
  | withDatatype s datatype =>
      rw [List.cons_append, peak_cons_of_eq rfl, List.cons_append, peak_cons_of_eq rfl,
        List.cons_append, peak_cons_of_eq rfl]
      rfl

mutual

/-- Before other tokens, those of a form open as many brackets at once as the form is deep. -/
theorem Reads.peak_append {ps : List Placed} {n : Node} (h : Reads ps n) (k : Nat)
    (more : List Token) :
    peak k (ps.map Placed.token ++ more) = max (k + n.depth) (peak k more) := by
  match ps, n, h with
  | _, _, .atom h =>
      rw [h.peak_append, Node.depth_atom]
      exact (Nat.max_eq_right (le_peak k more)).symm
  | _, _, @Reads.node ps ns b pos close h =>
      have hle := le_peak k more
      have hall := h.peak_append (k + 1) (b.closing :: more)
      simp only [List.map_cons, List.map_append, List.map_nil, List.cons_append, List.append_assoc,
        List.nil_append, peak, openAfter_opening, hall, openAfter_closing, Nat.add_sub_cancel,
        Node.depth_node]
      omega

theorem ReadsAll.peak_append {ps : List Placed} {ns : List Node} (h : ReadsAll ps ns) (k : Nat)
    (more : List Token) :
    peak k (ps.map Placed.token ++ more) = max (k + Node.depthAll ns) (peak k more) := by
  match ps, ns, h with
  | _, _, .nil => exact (Nat.max_eq_right (le_peak k more)).symm
  | _, _, .cons h hs =>
      rw [List.map_append, List.append_assoc, h.peak_append, hs.peak_append, Node.depthAll]
      omega

end

theorem Reads.peak_eq {ps : List Placed} {n : Node} (h : Reads ps n) :
    peak 0 (ps.map Placed.token) = n.depth := by
  have hpeak := h.peak_append 0 []
  rwa [List.append_nil, peak, Nat.max_zero, Nat.zero_add] at hpeak

theorem Reads.nesting_eq {text : String} {ps : List Placed} {n : Node} (h : Reads ps n)
    (htext : Token.tokens text = .ok ps) : nesting text = n.depth := by
  rw [nesting, htext, ← h.peak_eq]

theorem nesting_le_of_ofText? {text : String} {n : Node} (h : Node.ofText? text = .ok n) :
    nesting text ≤ maxNesting := by
  obtain ⟨ps, hps, hn, hd⟩ := Node.ofText?_eq_ok_iff.1 h
  rw [hn.nesting_eq hps]
  exact hd

theorem Reads.head?_offset {ps : List Placed} {n : Node} (h : Reads ps n) :
    ps.head?.map Placed.offset = some n.pos := by
  cases h with
  | atom h => rfl
  | node b pos close h => cases b <;> rfl

/-- Reading tokens always comes to an end: with the form that they spell, where they spell one and
never open more than 128 brackets at once, and with a fault for all other tokens. -/
theorem Node.ofTokens?_accepts (size : Nat) (ps : List Placed) :
    (∀ n, Node.ofTokens? size ps = .ok n ↔ Reads ps n ∧ peak 0 (ps.map Placed.token) ≤ 128) ∧
      ((∃ f, Node.ofTokens? size ps = .error f) ↔
        ¬ ∃ n, Reads ps n ∧ peak 0 (ps.map Placed.token) ≤ 128) ∧
      ∀ n, Reads ps n → ps.head?.map Placed.offset = some n.pos := by
  have haccepts (n : Node) :
      Node.ofTokens? size ps = .ok n ↔ Reads ps n ∧ peak 0 (ps.map Placed.token) ≤ 128 := by
    rw [Node.ofTokens?_eq_ok_iff]
    refine and_congr_right fun hn => ?_
    rw [hn.peak_eq]
    exact Iff.rfl
  refine ⟨haccepts, ?_, fun n hn => hn.head?_offset⟩
  simp only [← haccepts]
  cases Node.ofTokens? size ps with
  | error f => simp
  | ok n => simp

end Sexp

end GraphAlgebra

/-
Who can see what a compiled schema shares.

Judging builds every container anew, so no output is a container that came in. A compiled array,
tuple or map that changes nothing puts out the very container that it was given. Mostly nobody can
tell: outputs are the same up to identities. A node that reads outputs by identity can, and then a
compiled schema and its source decide differently. So sharing stays unseen below nodes that look at
content only, and above schemas that share nothing; a pipe, a set or an intersection over a schema
that shares is where it shows.
-/
import ValueSchema.Proofs.Compiled.Correctness

set_option autoImplicit false

namespace ValueSchema

open List (Forall₂)

/-! ## Fresh identities -/

namespace Value

theorem identRun_le_nextRun {v : Value} {id : Ident} (h : v.ident? = some id) :
    identRun id ≤ v.nextRun := by
  cases v <;> cases h <;> exact Nat.le_max_left _ _

/-- What a run builds is new to every value that the run starts above. -/
theorem ident?_ne_of_nextRun_le {v : Value} {s : Site} (h : v.nextRun ≤ s.run) :
    v.ident? ≠ some s.ident := by
  intro hid
  have hle := identRun_le_nextRun hid
  have hrun : identRun s.ident = s.run + 1 := rfl
  omega

/-- A container agrees with nothing that has another identity. -/
theorem sameValueZero_eq_false {v w : Value} {id : Ident} (hw : w.ident? = some id)
    (hv : v.ident? ≠ some id) : v.sameValueZero w = false := by
  cases w <;> cases hw <;> cases v <;>
    first
    | rfl
    | exact decide_eq_false fun h => hv (congrArg some h)

/-- A container agrees with itself. -/
theorem sameValueZero_self {v : Value} (hv : v.isComposite = true) : v.sameValueZero v = true := by
  cases v with
  | array id _ | object id _ | map id _ | set id _ => exact decide_eq_true (rfl : id = id)
  | _ => cases hv

end Value

namespace Schema

variable {resolve : Resolution} {E : Schema} {s : Site} {v : Value} {c : Context}

/-! ## Echoes -/

theorem all?_same {σ : Type} {f : σ → Option Output} {l : List σ}
    (h : ∀ x ∈ l, f x = some .same) : Output.all? (l.map f) = some (l.map fun _ => .same) := by
  induction l with
  | nil => rfl
  | cons x rest ih =>
    rw [List.map_cons, h x List.mem_cons_self]
    simp only [Output.all?, ih fun y hy => h y (List.mem_cons_of_mem _ hy), Option.map_some,
      List.map_cons]

/-- **An echo is compiled to the very input.** -/
theorem Echoes.output (h : E.Echoes) : (E.compile resolve).output = some .same := by
  induction h with
  | text h =>
    simp only [compile, Node.text, h, List.isEmpty_nil, if_true]
    rfl
  | array bounds _ ih =>
    show ((compile resolve _).output.map Output.array) = _
    rw [ih]
    rfl
  | @tuple items rest limits _ ih =>
    -- all children put out their input, so the tuple needs no new elements
    have hitems : Output.all? (items.map fun t => (compile resolve t).output)
        = some (items.map fun _ => .same) :=
      all?_same fun t ht => ih t (List.mem_append_left rest.toList ht)
    have hrest : Node.childOutput? (rest.map (compile resolve))
        = some (rest.map fun _ => .same) := by
      cases rest with
      | none => rfl
      | some t =>
        show ((compile resolve t).output.map some) = _
        rw [ih t (List.mem_append_right items (by simp))]
        rfl
    simp only [compile, compileAll_eq_map, compile?_eq_map, Node.tuple, Node.new, List.map_map,
      Function.comp_def, hitems, hrest]
    have hsame : ((items.map fun _ => Output.same).all Output.isSame
        && (rest.map fun _ => Output.same).all Output.isSame) = true := by
      cases rest <;> simp [Output.isSame]
    exact congrArg some (if_pos hsame)
  | @map key value limits _ _ ihk ihv =>
    show (do some (Output.map (← (compile resolve key).output) (← (compile resolve value).output)))
      = _
    rw [ihk, ihv]
    rfl
  | @modified m inner hm _ ih =>
    show ((compile resolve inner).output.bind (Output.modified m (compile resolve inner).test)) = _
    rw [ih]
    cases m <;> first | rfl | cases hm
  | _ => rfl

/-- What is below an echo is an echo. -/
theorem Echoes.child (h : E.Echoes) {t : Schema} (ht : t ∈ E.children) : t.Echoes := by
  cases h with
  | array bounds h =>
    cases List.mem_singleton.mp ht
    exact h
  | tuple limits h => exact h t ht
  | map limits hk hv =>
    rcases List.mem_cons.mp ht with rfl | ht
    · exact hk
    · cases List.mem_singleton.mp ht
      exact hv
  | modified hm h =>
    cases List.mem_singleton.mp (show t ∈ [_] by simpa [children, bare, held] using ht)
    exact h
  | _ => cases ht

/-- No node of an echo reads outputs. -/
theorem Echoes.indifferent (h : E.Echoes) : E.Every Indifferent := by
  induction E using Schema.induction with
  | node E ih =>
    refine .intro _ (.inr fun t ht => ?_) fun t ht => ih t ht (h.child ht)
    cases h with
    | @modified m inner hm h =>
      cases m with
      | refine _ _ | superRefine _ | transform _ => cases hm
      | _ => cases ht
    | _ => cases ht

/-- **An echo and its compiled form** reject alike, or the one builds what the other puts out as it
came in. -/
theorem Echoes.judges (h : E.Echoes) (resolve : Resolution) (s : Site) (v : Value) (c : Context) :
    (∃ e e', (E.evaluator .sync resolve).judge s v c = some (.error e)
      ∧ (E.compile resolve).judge s v c = some (.error e')
      ∧ Forall₂ (Issue.Like Value.SameContent) e.toList e'.toList)
    ∨ ∃ built, (E.evaluator .sync resolve).judge s v c = some (.ok built)
      ∧ (E.compile resolve).judge s v c = some (.ok v) ∧ built.SameContent v := by
  have hout : (E.compile resolve).output = some .same := h.output
  obtain ⟨htest, hfits⟩ :=
    compile_fits Value.congruence_sameOutline (every_carries_sameOutline E) hout
  have hlike : (Likeness.upTo Value.SameContent Value.congruence_sameContent).answer
      ((E.evaluator .sync resolve).judge s v c) ((E.compile resolve).judge s v c) :=
    (compile_indifferent h.indifferent).judge rfl rfl rfl
  obtain ⟨verdict, hverdict⟩ := hfits.answers c.depth s v c rfl
  have htested := hfits.agrees hverdict
  -- both reject, or the compiled form looks its output up and finds the input
  cases verdict with
  | error e =>
    rw [hverdict] at hlike
    cases hc : (E.compile resolve).judge s v c with
    | none =>
      rw [hc] at hlike
      cases hlike
    | some verdict' =>
      rw [hc] at hlike
      cases hlike with
      | some hlike =>
        cases hlike with
        | error hissues => exact .inl ⟨e, _, hverdict, rfl, hissues⟩
  | ok built =>
    have hcompiled : (E.compile resolve).judge s v c = some (.ok v) := by
      rw [compile_judge_of_some hout, ← compile_test, htest, Node.fastJudge_of_accepts htested]
      rfl
    rw [hverdict, hcompiled] at hlike
    cases hlike with
    | some hlike =>
      cases hlike with
      | ok hsame => exact .inr ⟨built, hverdict, hcompiled, hsame⟩

theorem Echoes.answers (h : E.Echoes) (resolve : Resolution) (s : Site) (v : Value) (c : Context) :
    ∃ a a', (E.evaluator .sync resolve).judge s v c = some a
      ∧ (E.compile resolve).judge s v c = some a'
      ∧ (Likeness.upTo Value.SameContent Value.congruence_sameContent).verdict a a' := by
  rcases h.judges resolve s v c with ⟨e, e', he, he', hissues⟩ | ⟨built, hbuilt, hv, hsame⟩
  · exact ⟨_, _, he, he', .error hissues⟩
  · exact ⟨_, _, hbuilt, hv, .ok hsame⟩

theorem Echoes.eq_of_judge (h : E.Echoes) {out : Value}
    (hout : (E.compile resolve).judge s v c = some (.ok out)) : out = v := by
  rcases h.judges resolve s v c with ⟨_, _, _, he, _⟩ | ⟨_, _, hv, _⟩
  · rw [he] at hout
    cases hout
  · rw [hv] at hout
    cases hout
    rfl

/-! ## Containers that are built -/

/-- A container that may be shared is built anew by the schema itself. -/
theorem ident?_of_shares (h : E.SharesContainer) {out : Value}
    (hv : (E.evaluator .sync resolve).judge s v c = some (.ok out)) :
    out.ident? = some s.ident := by
  rw [evaluator_eq_layer] at hv
  -- the output of each of the three is built at the site of the node
  cases E with
  | array element bounds =>
    obtain ⟨_, _, _, _, _, _, _, rfl⟩ := ArrayBounds.judge_eq_ok hv
    rfl
  | tuple items rest limits =>
    obtain ⟨_, _, _, _, _, _, _, _, rfl⟩ := Tuple.judge_eq_ok hv
    rfl
  | map key value limits =>
    obtain ⟨_, _, _, _, _, _, _, rfl⟩ := Dictionary.judge_eq_ok hv
    rfl
  | _ => cases h

theorem SharesContainer.echoes (h : E.SharesContainer) : E.Echoes := by
  cases E with
  | array _ _ | tuple _ _ _ | map _ _ _ => exact h
  | _ => cases h

/-! ## Readers of what is shared -/

/-- A schema and its compiled form come to like verdicts at one place. -/
def AnswersAlike (resolve : Resolution) (schema : Schema) (s : Site) (v : Value) (c : Context) :
    Prop :=
  Option.Rel (Verdict.Like Value.SameContent (Forall₂ (Issue.Like Value.SameContent)))
    ((schema.evaluator .sync resolve).judge s v c) ((schema.compile resolve).judge s v c)

/-- A literal puts out what agrees with it. -/
theorem literal_judge_of_same {l : Value} (h : l.sameValueZero v = true) :
    ((literal l).compile resolve).judge s v c = some (.ok v) := by
  rw [compile_judge_of_some (rfl : ((literal l).compile resolve).output = some .same)]
  exact Node.fastJudge_of_accepts (congrArg some h)

/-- A literal reports what does not agree with it. -/
theorem literal_judge_of_differs {l : Value} (h : l.sameValueZero v = false) :
    ((literal l).compile resolve).judge s v c = some (Literal.run l c v) := by
  rw [compile_judge_of_some (rfl : ((literal l).compile resolve).output = some .same)]
  exact Node.fastJudge_of_rejects (congrArg some h)

/-- **A pipe into a container tells** whenever its compiled form accepts: the schema builds another
container than the one that the literal stands for, the compiled form hands on the very one. -/
theorem pipe_literal_alike_iff (h : E.SharesContainer) {l : Value}
    (hl : l.ident? ≠ some (s.child 0).ident) :
    AnswersAlike resolve (pipe E (literal l)) s v c
      ↔ ∀ out, ((pipe E (literal l)).compile resolve).judge s v c ≠ some (.ok out) := by
  have hsource : ((pipe E (literal l)).evaluator .sync resolve).judge s v c
      = ((E.evaluator .sync resolve).judge.pipe fun _ v c => some (Literal.run l c v)) s v c := rfl
  have hcompiled : ((pipe E (literal l)).compile resolve).judge s v c
      = ((E.compile resolve).judge.pipe ((literal l).compile resolve).judge) s v c := rfl
  unfold AnswersAlike
  rw [hsource, hcompiled, Judge.pipe, Judge.pipe]
  -- if the first schema rejects nothing is told apart; else the literal sees two containers
  rcases h.echoes.judges resolve (s.child 0) v c with
    ⟨e, e', he, he', hissues⟩ | ⟨built, hbuilt, hv, hsame⟩
  · rw [he, he']
    exact ⟨fun _ out hout => (by cases hout), fun _ => .some (.error hissues)⟩
  · have hdiffers : l.sameValueZero built = false :=
      Value.sameValueZero_eq_false (ident?_of_shares h hbuilt) hl
    rw [hbuilt, hv]
    show Option.Rel _ (some (Literal.run l c built)) (((literal l).compile resolve).judge _ v c)
      ↔ ∀ out, ((literal l).compile resolve).judge (s.child 1) v c ≠ some (.ok out)
    have hrejects : ∀ w, l.sameValueZero w = false → Literal.run l c w = Verdict.reject
        (((c.issue .invalidLiteral ("Invalid literal value, expected " ++ l.display)).withExpected
          l.display).withReceived w) := fun w hw => by simp [Literal.run, hw]
    -- the built container never agrees with the literal, the input may
    cases hagree : l.sameValueZero v with
    | true =>
      rw [literal_judge_of_same hagree, hrejects built hdiffers]
      constructor
      · intro hlike
        cases hlike with
        | some hlike => cases hlike
      · exact fun hnone => absurd rfl (hnone v)
    | false =>
      rw [literal_judge_of_differs hagree, hrejects built hdiffers, hrejects v hagree]
      refine ⟨fun _ out hout => (by cases hout), fun _ => .some (.error (.cons ?_ .nil))⟩
      exact (Issue.Like.refl Value.sameContent_refl _).withReceived hsame

theorem distinct_pair {a b : Value} (h : a.sameValueZero b = false) :
    Value.distinct [a, b] = [a, b] := by
  simp [Value.distinct, Value.addDistinct, h]

theorem distinct_self {a : Value} (h : a.isComposite = true) : Value.distinct [a, a] = [a] := by
  simp [Value.distinct, Value.addDistinct, Value.sameValueZero_self h]

/-- **A set tells**: where a default puts a container that is in the set already, the schema builds
two containers, and its compiled form finds one twice. -/
theorem set_default_of_shares (h : E.SharesContainer) {l out : Value} (hl : l.isComposite = true)
    (bounds : SetBounds) {id : Ident}
    (hv : ((set (modified (.default l) E) bounds).evaluator .sync resolve).judge s
      (.set id [.undefined, l]) c = some (.ok out)) :
    ∃ out', ((set (modified (.default l) E) bounds).compile resolve).judge s
        (.set id [.undefined, l]) c = some (.ok out') ∧ ¬ out.SameContent out' := by
  have hundefined : l.isUndefined = false := by
    cases l <;> first | rfl | cases hl
  -- the schema builds two containers
  have hbuilt : ∃ a b, out = .set s.ident [a, b] := by
    have hset : bounds.judge ((modified (.default l) E).evaluator .sync resolve).judge s
        (.set id [.undefined, l]) c = some (.ok out) := hv
    obtain ⟨_, _, l', hitems, _, hl', hnone, rfl⟩ := SetBounds.judge_eq_ok hset
    cases hitems
    obtain ⟨first, hfirst, hl'⟩ := Option.bind_eq_some_iff.mp hl'
    obtain ⟨others, hothers, hl'⟩ := Option.bind_eq_some_iff.mp hl'
    obtain ⟨second, hsecond, hothers⟩ := Option.bind_eq_some_iff.mp hothers
    cases hothers
    cases hl'
    obtain ⟨⟨a, rfl⟩, hrest⟩ := Verdict.allIssues_cons_eq_nil hnone
    obtain ⟨⟨b, rfl⟩, _⟩ := Verdict.allIssues_cons_eq_nil hrest
    have ha : a.ident? = some (s.child 0).ident := ident?_of_shares h hfirst
    have hb : b.ident? = some (s.child 1).ident := ident?_of_shares h hsecond
    have hdiffer : a.sameValueZero b = false := by
      refine Value.sameValueZero_eq_false hb ?_
      rw [ha]
      simp [Site.ident, Site.child]
    refine ⟨a, b, ?_⟩
    show Value.set s.ident (Value.distinct [a, b]) = _
    rw [distinct_pair hdiffer]
  -- the compiled form puts out the default and the container that it is
  have hout : ((set (modified (.default l) E) bounds).compile resolve).output
      = some (Output.set (.build fun s v depth =>
          Output.same.apply s (if v.isUndefined then l else v) depth)) := by
    show ((E.compile resolve).output.bind _).map Output.set = _
    rw [h.echoes.output]
    rfl
  obtain ⟨htest, hfits⟩ :=
    compile_fits Value.congruence_sameOutline (every_carries_sameOutline _) hout
  have htested := hfits.agrees hv
  refine ⟨.set s.ident [l], ?_, ?_⟩
  · have happly : (Output.set (.build fun s v depth =>
        Output.same.apply s (if v.isUndefined then l else v) depth)).apply s
          (.set id [.undefined, l]) c.depth = some (.set s.ident [l]) := by
      have hnothing : Value.undefined.isUndefined = true := rfl
      simp [Output.set, Output.apply, Output.itemsFrom, Value.ofElements, hnothing, hundefined,
        distinct_self hl]
    rw [compile_judge_of_some hout, ← compile_test, htest, Node.fastJudge_of_accepts htested,
      happly]
    rfl
  · obtain ⟨a, b, rfl⟩ := hbuilt
    intro hsame
    have hlength := ((Value.sameContent_set _ _ _ _).mp hsame).length_eq
    cases hlength

/-- A map of echoes that share nothing builds a map of the very entries. -/
theorem map_output_of_exact {key value : Schema} {limits : Limits} (hk : key.Echoes)
    (hku : key.Unshared) (hv : value.Echoes) (hvu : value.Unshared) {out : Value}
    (h : ((map key value limits).evaluator .sync resolve).judge s v c = some (.ok out)) :
    ∃ id entries, v = .map id entries ∧ out = .map s.ident entries := by
  obtain ⟨id, entries, l, rfl, _, hl, hnone, rfl⟩ := Dictionary.judge_eq_ok
    (show Dictionary.judge (key.evaluator .sync resolve).judge (value.evaluator .sync resolve).judge
      limits s v c = some (.ok out) from h)
  have hkeyOut : (key.compile resolve).output = some .same := hk.output
  have hvalueOut : (value.compile resolve).output = some .same := hv.output
  have hkey := (compile_fits Value.congruence_eq hku.carries hkeyOut).2
  have hvalue := (compile_fits Value.congruence_eq hvu.carries hvalueOut).2
  -- keys and values share nothing, so what they put out is what came in
  obtain ⟨ws, hws, hrels⟩ := Output.Yields.pairsFrom hkey.yields hvalue.yields hl hnone
  rw [Output.Yields.pairsFrom_same] at hws
  cases hws
  exact ⟨id, entries, rfl, by rw [Value.eq_of_entryLike_eq hrels]⟩

/-- An intersection of two combines two verdicts. -/
theorem intersection_judge_pair {j k : Judge} {a b : Verdict} (ha : j (s.child 0) v c = some a)
    (hb : k (s.child 1) v c = some b) :
    Intersection.judge [j, k] s v c = some (Intersection.combine s c [a, b]) := by
  simp only [Intersection.judge, Intersection.judgeBranches, ha, hb]
  rfl

/-- Two outputs that both branches accept are merged, or in conflict. -/
theorem combine_pair (a b : Value) : Intersection.combine s c [.ok a, .ok b]
    = match Intersection.merge ((s.child 2).child 0) a b with
      | some output => .ok output
      | none => Verdict.reject (c.issue .intersectionConflict
          "Intersection results could not be merged") := by
  show (match Intersection.mergeFrom (s.child 2) 0 a [b] with
    | some output => Except.ok output
    | none => _) = _
  simp only [Intersection.mergeFrom]
  cases Intersection.merge ((s.child 2).child 0) a b <;> rfl

/-- Two maps of the same entries merge if they are one map or every entry is equal to itself. -/
theorem merge_maps (id id' : Ident) (entries : List (Value × Value)) :
    Intersection.merge s (.map id entries) (.map id' entries)
      = if id = id' ∨ Value.equalEntries entries entries = true then some (.map id entries)
        else none := by
  by_cases hid : id = id'
  · simp [Intersection.merge, Intersection.agree, Value.equal, hid]
  · simp [Intersection.merge, Intersection.agree, Value.equal, Value.sameValueZero,
      Value.samePrimitive, Value.sameContainer, hid]

theorem issues_of_combine {l : List Verdict} {out : Value}
    (h : Intersection.combine s c l = .ok out) : Verdict.allIssues l = [] := by
  cases hl : Verdict.allIssues l with
  | nil => rfl
  | cons i rest =>
    simp only [Intersection.combine, hl] at h
    cases h

/-- **An intersection tells** whenever an entry differs from itself: two branches that build one map
twice are in conflict then, while their compiled forms hand on one map, which agrees with itself. -/
theorem intersection_alike_iff {key value : Schema} {limits : Limits} (hk : key.Echoes)
    (hku : key.Unshared) (hv : value.Echoes) (hvu : value.Unshared) :
    AnswersAlike resolve (intersection [map key value limits, map key value limits]) s v c
      ↔ ∀ id entries out, v = .map id entries →
        ((intersection [map key value limits, map key value limits]).compile resolve).judge s v c
          = some (.ok out) → Value.equalEntries entries entries = true := by
  have hechoes : (map key value limits).Echoes := .map limits hk hv
  have hsource : ((intersection [map key value limits, map key value limits]).evaluator .sync
      resolve).judge s v c
        = Intersection.judge [((map key value limits).evaluator .sync resolve).judge,
          ((map key value limits).evaluator .sync resolve).judge] s v c := rfl
  have hcompiled : ((intersection [map key value limits, map key value limits]).compile
      resolve).judge s v c
        = Intersection.judge [((map key value limits).compile resolve).judge,
          ((map key value limits).compile resolve).judge] s v c := rfl
  obtain ⟨a, a', ha, ha', halike⟩ := hechoes.answers resolve (s.child 0) v c
  obtain ⟨b, b', hb, hb', hblike⟩ := hechoes.answers resolve (s.child 1) v c
  have hissues := Likeness.allIssues_like (.cons halike (.cons hblike .nil))
  unfold AnswersAlike
  rw [hsource, hcompiled, intersection_judge_pair ha hb, intersection_judge_pair ha' hb']
  -- with an issue in a branch nothing is merged on either side
  cases hnone : Verdict.allIssues [a', b'] with
  | cons i rest =>
    rw [hnone] at hissues
    constructor
    · intro _ id entries out _ hout
      rw [issues_of_combine (Option.some.inj hout)] at hnone
      cases hnone
    · intro _
      refine .some (Likeness.combine_like rfl (.cons halike (.cons hblike .nil)) fun hnil => ?_)
      rw [hnil] at hissues
      cases hissues
  | nil =>
    obtain ⟨⟨x, rfl⟩, hrest⟩ := Verdict.allIssues_cons_eq_nil hnone
    obtain ⟨⟨y, rfl⟩, _⟩ := Verdict.allIssues_cons_eq_nil hrest
    cases hechoes.eq_of_judge ha'
    cases hechoes.eq_of_judge hb'
    cases halike with
    | @ok m _ hm =>
    cases hblike with
    | @ok m' _ hm' =>
    obtain ⟨id, entries, rfl, rfl⟩ := map_output_of_exact hk hku hv hvu ha
    obtain ⟨_, _, hentries, rfl⟩ := map_output_of_exact hk hku hv hvu hb
    cases hentries
    -- the two maps of the schema are built at two sites, those of the compiled form are one
    have hident : (s.child 0).ident ≠ (s.child 1).ident := by simp [Site.ident, Site.child]
    have hone : id = id ∨ Value.equalEntries entries entries = true := .inl rfl
    rw [combine_pair, combine_pair, merge_maps, merge_maps, if_pos hone]
    by_cases hequal : Value.equalEntries entries entries = true
    · rw [if_pos (.inr hequal)]
      constructor
      · intro _ id' entries' out h _
        cases h
        exact hequal
      · exact fun _ => .some (.ok hm)
    · rw [if_neg (by simp [hident, hequal])]
      constructor
      · intro hlike
        cases hlike with
        | some hlike => cases hlike
      · exact fun hall => absurd (hall id entries _ rfl rfl) hequal

end Schema

/-! ## Seen and unseen sharing -/

/-- Arrays of anything. -/
def Schema.anyArray : Schema := .array (.plain .any) .any

/-- An intersection of a map of anything with itself. -/
def Schema.mapTwice : Schema :=
  .intersection [.map (.plain .any) (.plain .any) Limits.standard,
    .map (.plain .any) (.plain .any) Limits.standard]

/-- An array that came from outside. -/
def Value.givenArray : Value := .array (.given 0) [.string "x"]

/-- A map with an entry that differs from itself. -/
def Value.nanMap : Value := .map (.given 0) [(.string "k", .number Double.nan)]

/-- **Where sharing is seen.** A schema and its compiled form come to like verdicts on every value
if each node looks at content only or reads what shares nothing. No kind of reader can be left out
of this: a pipe from a schema that shares into a container is seen on exactly the values that its
compiled form accepts, an intersection of a map with itself on exactly those it accepts with an
entry that differs from itself, and a set with a default on its default beside nothing. -/
theorem sharing_seen_by_readers (family : Family) (v : Value) (c : Context) :
    (∀ schema : Schema, schema.Every Schema.Indifferent → schema.JudgedAlike family v c)
    ∧ (∀ (E : Schema) (l : Value), E.SharesContainer →
      ((Schema.pipe E (.literal l)).JudgedAlike family v c
        ↔ ∀ out, (Schema.pipe E (.literal l)).validateCompiledIn family v c ≠ some (.ok out)))
    ∧ (∀ (key value : Schema) (limits : Limits),
      key.Echoes → key.Unshared → value.Echoes → value.Unshared →
      ((Schema.intersection [.map key value limits, .map key value limits]).JudgedAlike family v c
        ↔ ∀ id entries out, v = .map id entries →
          (Schema.intersection [.map key value limits, .map key value limits]).validateCompiledIn
            family v c = some (.ok out) → Value.equalEntries entries entries = true))
    ∧ ∀ (E : Schema) (l : Value) (bounds : SetBounds) (id : Ident) (out : Value),
      E.SharesContainer → l.isComposite = true → v = .set id [.undefined, l] →
      (Schema.set (.modified (.default l) E) bounds).validateIn family v c = some (.ok out) →
      ¬ (Schema.set (.modified (.default l) E) bounds).JudgedAlike family v c := by
  refine ⟨fun schema hs => ?_, fun E l hE => ?_, fun key value limits hk hku hv hvu => ?_, ?_⟩
  · have hlike : (Likeness.upTo Value.SameContent Value.congruence_sameContent).Evaluators
        (family.evaluator .sync schema v) (family.compiled schema v).evaluator :=
      Schema.compile_indifferent hs
    exact hlike.judge rfl rfl rfl
  · -- what the schema builds is newer than the literal
    have hfresh : l.nextRun ≤ ((family.start (.pipe E (.literal l)) v).child 0).run := by
      have hconst : (Schema.pipe E (.literal l)).nextRun = max E.nextRun l.nextRun := rfl
      have hrun : ((family.start (.pipe E (.literal l)) v).child 0).run
          = max v.nextRun (max (Schema.pipe E (.literal l)).nextRun
            (Schema.fieldNextRuns family)) := rfl
      omega
    exact Schema.pipe_literal_alike_iff hE (Value.ident?_ne_of_nextRun_le hfresh)
  · exact Schema.intersection_alike_iff hk hku hv hvu
  · rintro E l bounds id out hE hl rfl hout halike
    obtain ⟨out', hout', hdiffer⟩ := Schema.set_default_of_shares hE hl bounds hout
    have hcompiled : (Schema.set (.modified (.default l) E) bounds).validateCompiledIn family
        (.set id [.undefined, l]) c = some (.ok out') := hout'
    unfold Schema.JudgedAlike at halike
    rw [hout, hcompiled] at halike
    cases halike with
    | some h =>
      cases h with
      | ok hsame => exact hdiffer hsame

theorem sharing_seen_by_readers_of_arrays :
    (Schema.set (.words ["a", "b"]) .any).JudgedAlike []
        (.set (.given 0) [.string "a"]) Context.root
      ∧ ¬ (Schema.pipe Schema.anyArray (.literal Value.givenArray)).JudgedAlike []
        Value.givenArray Context.root
      ∧ ¬ Schema.mapTwice.JudgedAlike [] Value.nanMap Context.root
      ∧ ¬ (Schema.set (.modified (.default Value.givenArray) Schema.anyArray) .any).JudgedAlike []
        (.set (.given 1) [.undefined, Value.givenArray]) Context.root := by
  obtain ⟨hunseen, _, _, _⟩ :=
    sharing_seen_by_readers [] (.set (.given 0) [.string "a"]) Context.root
  obtain ⟨_, hpipe, _, _⟩ := sharing_seen_by_readers [] Value.givenArray Context.root
  obtain ⟨_, _, hmap, _⟩ := sharing_seen_by_readers [] Value.nanMap Context.root
  obtain ⟨_, _, _, hset⟩ :=
    sharing_seen_by_readers [] (.set (.given 1) [.undefined, Value.givenArray]) Context.root
  have hany : (Schema.plain .any).Unshared := .intro _ (fun h => h) fun t ht => nomatch ht
  have hshares : Schema.anyArray.SharesContainer := .array .any (.plain .any)
  refine ⟨?_, fun halike => ?_, fun halike => ?_, ?_⟩
  · refine hunseen _ (.intro _ (.inr fun t ht => ?_) fun t ht => ?_)
    · cases List.mem_singleton.mp ht
      exact .intro _ (fun h => h) fun t ht => nomatch ht
    · cases List.mem_singleton.mp ht
      exact .intro _ (.inl ⟨rfl, trivial⟩) fun t ht => nomatch ht
  · exact (hpipe _ _ hshares).mp halike Value.givenArray rfl
  · have hcompiled : (Schema.mapTwice.validateCompiled [] Value.nanMap).map Except.isOk
        = some true := by decide +kernel
    obtain ⟨verdict, hverdict, hok⟩ := Option.map_eq_some_iff.mp hcompiled
    cases verdict with
    | error e => cases hok
    | ok out =>
      have hself := (hmap _ _ _ (.plain .any) hany (.plain .any) hany).mp halike _ _ out rfl
        hverdict
      have hnan : Value.equalEntries [(.string "k", .number Double.nan)]
          [(.string "k", .number Double.nan)] = false := by decide +kernel
      rw [hself] at hnan
      cases hnan
  · exact hset Schema.anyArray Value.givenArray .any (.given 1) _ hshares rfl rfl rfl

/-- The compiled form accepts what the schema rejects as a conflict. -/
theorem mapTwice_nanMap_differ :
    (Schema.mapTwice.validateCompiled [] Value.nanMap).map Except.isOk = some true
      ∧ (Schema.mapTwice.validate [] Value.nanMap).map Except.isOk = some false
      ∧ ¬ Schema.mapTwice.JudgedAlike [] Value.nanMap Context.root := by
  have hcompiled : (Schema.mapTwice.validateCompiled [] Value.nanMap).map Except.isOk
      = some true := by decide +kernel
  have hsource : (Schema.mapTwice.validate [] Value.nanMap).map Except.isOk = some false := by
    decide +kernel
  refine ⟨hcompiled, hsource, fun halike => ?_⟩
  rcases halike.eq_or with ⟨hnone, _⟩ | ⟨a, b, ha, hb, hab⟩
  · rw [Schema.validate, hnone] at hsource
    cases hsource
  · rw [Schema.validate, ha] at hsource
    rw [Schema.validateCompiled, hb] at hcompiled
    cases hab <;> simp_all [Except.isOk, Except.toBool]

end ValueSchema

import RockchipVaapi.Decode.Teardown

/-!
# Pictures that share a fence

`rk_EndPicture` leaves `h264_field_pending` set behind the second field of a pair as well as behind
the first, and `rk_BeginPicture` decides over a continuation before it is known whether the picture
it begins is a field. The runs here carry the list of the pictures that were ended, and a fence is
shared by the two fields of one pair only as long as the application waits for the completion of a
pair and lets a field be followed by a field.
-/

namespace RockchipVaapi.Decode
open Transition

/-- A picture for which `rk_EndPicture` has built a job. -/
structure EndedPicture where
  target : Target
  h264Field : Bool
  deriving DecidableEq, Repr

/-- The picture that an action ends. -/
def endedBy (ctx : Context) : Action → List EndedPicture
  | .app .release =>
    match ctx.render, ctx.endPicture with
    | some target, some (some job) => [⟨target, job.h264Field⟩]
    | _, _ => []
  | _ => []

/-- A state with the pictures that were ended on the way to it. -/
abbrev Recorded := State × List EndedPicture

def recordedStep (r : Recorded) (act : ContextId × Action) : Option Recorded :=
  (step r.1 act).map fun st => (st, r.2 ++ endedBy (r.1.contexts act.1) act.2)

def Recorded.init (coding : ContextId → Coding) (profileIdc : ContextId → Nat) : Recorded :=
  (State.init coding profileIdc, [])

/-- The pictures that were ended under a fence of a surface. -/
def picturesUnder (ended : List EndedPicture) (p : Target) : List EndedPicture :=
  ended.filter fun picture => picture.target = p

/-- The pictures under the fence that a surface has now. -/
def Recorded.current (r : Recorded) (s : SurfaceId) : List EndedPicture :=
  picturesUnder r.2 (s, (r.1.surfaces s).fence)

/-- At most one picture, or two fields. -/
def OnePicture (pictures : List EndedPicture) : Prop :=
  pictures.length ≤ 1 ∨ pictures.length = 2 ∧ ∀ picture ∈ pictures, picture.h264Field = true

/-- A frame, or two fields. -/
def Whole (pictures : List EndedPicture) : Prop :=
  (∃ picture, pictures = [picture] ∧ picture.h264Field = false) ∨ pictures.length = 2

/-- A surface under whose fence two pictures have ended is begun again only when it is settled, and
the fence counter has not wrapped around; a picture that ends under the fence of another one is a
field. -/
def keepsPairs (r : Recorded) (act : ContextId × Action) : Bool :=
  match act.2 with
  | .app (.begin i) =>
    match (r.1.contexts act.1).calls[i]? with
    | some (.begin s) =>
      decide ((r.1.surfaces s).fence < 2 ^ 64 - 1) &&
        (decide ((r.current s).length < 2) || (r.1.surfaces s).settled)
    | _ => true
  | action =>
    (endedBy (r.1.contexts act.1) action).all fun picture =>
      (picturesUnder r.2 picture.target).isEmpty || picture.h264Field

theorem recordedStep_cases {r r' : Recorded} {act : ContextId × Action}
    (h : recordedStep r act = some r') :
    step r.1 act = some r'.1 ∧ r'.2 = r.2 ++ endedBy (r.1.contexts act.1) act.2 := by
  obtain ⟨st, hstep, rfl⟩ := Option.map_eq_some_iff.mp h
  exact ⟨hstep, rfl⟩

theorem picturesUnder_append (ended more : List EndedPicture) (p : Target) :
    picturesUnder (ended ++ more) p = picturesUnder ended p ++ picturesUnder more p :=
  List.filter_append ended more

theorem picturesUnder_of_ne {picture : EndedPicture} {p : Target} (h : picture.target ≠ p) :
    picturesUnder [picture] p = [] := by
  simp only [picturesUnder, List.filter_cons, decide_eq_true_eq, if_neg h, List.filter_nil]

theorem picturesUnder_self (picture : EndedPicture) :
    picturesUnder [picture] picture.target = [picture] := by
  simp only [picturesUnder, List.filter_cons, decide_true, if_true, List.filter_nil]

theorem onePicture_field {picture : EndedPicture} (h : picture.h264Field = true)
    {pictures : List EndedPicture}
    (before : pictures = [] ∨ ∃ first, pictures = [first] ∧ first.h264Field = true) :
    OnePicture (pictures ++ [picture]) := by
  rcases before with rfl | ⟨first, rfl, field⟩
  · exact .inl (Nat.le_refl 1)
  · refine .inr ⟨rfl, ?_⟩
    intro e mem
    rcases List.mem_cons.mp mem with rfl | mem
    · exact field
    · obtain rfl := List.mem_singleton.mp mem
      exact h

/-! ## The sections of a picture -/

/-- What a step means for the pictures of a context: it begins one, ends one, or is about neither
and at most gives up the one being rendered. -/
inductive PictureStep (c : ContextId) (ctx : Context) (surfaces : Surfaces) (a : Action)
    (ctx' : Context) : Touch → Prop
  | begin {i : Nat} {s : SurfaceId} (action : a = .app (.begin i))
      (call : ctx.calls[i]? = some (.begin s))
      (render : ctx'.render =
        some (s, ((SurfaceOp.begin c (ctx.coding == .avc)).apply (surfaces s)).fence)) :
    PictureStep c ctx surfaces a ctx' (some (s, .begin c (ctx.coding == .avc)))
  | finish {s : SurfaceId} {fence : Nat} {job : Job} (action : a = .app .release)
      (render : ctx.render = some (s, fence)) (held : ctx.endPicture = some (some job))
      (after : ctx'.render = none) :
    PictureStep c ctx surfaces a ctx' (some (s, .mark fence job.h264Field))
  | other {t : Touch} (ended : endedBy ctx a = [])
      (render : ctx'.render = ctx.render ∨ ctx'.render = none)
      (noBegin : ∀ s d avc, t ≠ some (s, .begin d avc))
      (noMark : ∀ s fence field, t ≠ some (s, .mark fence field)) :
    PictureStep c ctx surfaces a ctx' t

theorem WorkerMove.noMark {ctx : Context} {surfaces : Surfaces} {a : WorkerAction} {t : Touch}
    {w : Work} (move : WorkerMove ctx surfaces a t w) :
    ∀ s fence field, t ≠ some (s, .mark fence field) := by
  cases move <;> exact nofun

theorem ctxStep_picture {c : ContextId} {ctx ctx' : Context} {surfaces : Surfaces} {a : Action}
    {t : Touch} (h : ctxStep c ctx surfaces a = some (ctx', t)) :
    PictureStep c ctx surfaces a ctx' t := by
  cases a with
  | app a =>
    cases appStep_move h with
    | begin call free => exact .begin rfl call rfl
    | release render held => exact .finish rfl render held rfl
    | releaseFailed render held =>
      refine .other ?_ (.inr rfl) nofun nofun
      simp only [endedBy, render, held]
    | _ => exact .other rfl (.inl rfl) nofun nofun
  | worker a =>
    obtain ⟨move, calls⟩ := workerStep_move h
    exact .other rfl (.inl calls.render) move.noBegin move.noMark
  | stop a =>
    cases stopStep_move h with
    | failRender stop =>
      refine .other rfl (.inr rfl) ?_ ?_ <;> cases ctx.render <;> exact nofun
    | _ => exact .other rfl (.inl rfl) nofun nofun
  | exportSurface surface =>
    obtain ⟨rfl, rfl⟩ := Prod.mk.inj (Option.some.inj h)
    exact .other rfl (.inl rfl) nofun nofun

/-- No section but that of `rk_EndPicture` sets `h264_field_pending`. -/
theorem SurfaceOp.pending {op : SurfaceOp} (noMark : ∀ fence field, op ≠ .mark fence field)
    {s : Surface} (h : (op.apply s).h264FieldPending = true) : s.h264FieldPending = true := by
  cases op with
  | begin c avc =>
    simp only [SurfaceOp.apply] at h
    split at h
    · exact h
    · cases h
  | mark fence field => exact absurd rfl (noMark fence field)
  | complete fence success =>
    simp only [SurfaceOp.apply] at h
    split at h
    · cases h
    · exact h
  | fail fence =>
    simp only [SurfaceOp.apply] at h
    split at h <;> exact h
  | publish fence output =>
    simp only [SurfaceOp.apply] at h
    split at h
    · cases h
    · exact h
  | exportStable =>
    simp only [SurfaceOp.apply] at h
    split at h <;> exact h

theorem touched_pending {surfaces : Surfaces} {t : Touch} {s : SurfaceId}
    (noMark : ∀ fence field, t ≠ some (s, .mark fence field))
    (h : (touched surfaces t s).h264FieldPending = true) :
    (surfaces s).h264FieldPending = true := by
  rcases touched_cases surfaces t s with ⟨same, -⟩ | ⟨op, rfl, after⟩
  · rw [same] at h
    exact h
  · rw [after] at h
    refine SurfaceOp.pending ?_ h
    rintro fence field rfl
    exact noMark fence field rfl

/-- Before the counter wraps around, `rk_BeginPicture` continues a pending field or takes the next
fence. -/
theorem SurfaceOp.begin_fence {s : Surface} (small : s.fence < 2 ^ 64 - 1) (d : ContextId)
    (avc : Bool) :
    (s.h264FieldPending = true ∧ s.ctxId = some d ∧ s.settled = false ∧
      ((SurfaceOp.begin d avc).apply s).fence = s.fence) ∨
    ((SurfaceOp.begin d avc).apply s).fence = s.fence + 1 ∧
      ((SurfaceOp.begin d avc).apply s).h264FieldPending = false := by
  simp only [SurfaceOp.apply]
  split
  · rename_i continued
    simp only [Surface.continuation, Bool.and_eq_true, beq_iff_eq, Bool.not_eq_true'] at continued
    obtain ⟨⟨⟨⟨⟨-, pending⟩, ctxId⟩, decoded⟩, failed⟩, -⟩ := continued
    refine .inl ⟨pending, ctxId, ?_, rfl⟩
    simp only [Surface.settled, decoded, failed, Bool.or_self]
  · refine .inr ⟨?_, rfl⟩
    have next : (s.fence + 1) % 2 ^ 64 = s.fence + 1 := Nat.mod_eq_of_lt (by omega)
    simp only [nextFence, next, Nat.add_eq_zero_iff, Nat.one_ne_zero, and_false, if_false]

/-! ## The invariant -/

/-- The picture being rendered is the first under its fence, or follows one field; a pending field
is one of the pictures under the fence of its surface. -/
structure PairInv (r : Recorded) : Prop where
  renderLe : ∀ c s fence, (r.1.contexts c).render = some (s, fence) → fence ≤ (r.1.surfaces s).fence
  owner : ∀ c s, (r.1.contexts c).render = some (s, (r.1.surfaces s).fence) →
    (r.1.surfaces s).ctxId = some c
  alone : ∀ c d p, (r.1.contexts c).render = some p → (r.1.contexts d).render = some p → c = d
  endedLe : ∀ picture ∈ r.2, picture.target.2 ≤ (r.1.surfaces picture.target.1).fence
  pictures : ∀ p, OnePicture (picturesUnder r.2 p)
  rendering : ∀ c p, (r.1.contexts c).render = some p → picturesUnder r.2 p = [] ∨
    ∃ first, picturesUnder r.2 p = [first] ∧ first.h264Field = true
  pending : ∀ s, (r.1.surfaces s).h264FieldPending = true →
    r.current s ≠ [] ∧ ∀ picture ∈ r.current s, picture.h264Field = true

theorem pairInv_init (coding : ContextId → Coding) (profileIdc : ContextId → Nat) :
    PairInv (Recorded.init coding profileIdc) where
  renderLe c s fence same := by cases same
  owner c s same := by cases same
  alone c d p same := by cases same
  endedLe picture mem := by cases mem
  pictures p := .inl (Nat.zero_le 1)
  rendering c p same := by cases same
  pending s same := by cases same

/-- Nothing was ended under a fence that has not been issued. -/
theorem PairInv.nothing_above {r : Recorded} (h : PairInv r) {s : SurfaceId} {fence : Nat}
    (above : (r.1.surfaces s).fence < fence) : picturesUnder r.2 (s, fence) = [] := by
  refine List.filter_eq_nil_iff.mpr ?_
  intro picture mem same
  have le := h.endedLe picture mem
  rw [of_decide_eq_true same] at le
  exact Nat.lt_irrefl _ (Nat.lt_of_lt_of_le above le)

section

variable {r r' : Recorded}

/-- A step that neither begins nor ends a picture keeps everything. -/
theorem PairInv.other (h : PairInv r) (ended : r'.2 = r.2)
    (render : ∀ c p, (r'.1.contexts c).render = some p → (r.1.contexts c).render = some p)
    (fence : ∀ s, (r'.1.surfaces s).fence = (r.1.surfaces s).fence)
    (ctxId : ∀ s, (r'.1.surfaces s).ctxId = (r.1.surfaces s).ctxId)
    (pending : ∀ s, (r'.1.surfaces s).h264FieldPending = true →
      (r.1.surfaces s).h264FieldPending = true) : PairInv r' := by
  have current : ∀ s, r'.current s = r.current s := by
    intro s
    simp only [Recorded.current, ended, fence]
  constructor
  · intro c s fence' same
    rw [fence]
    exact h.renderLe c s fence' (render c _ same)
  · intro c s same
    rw [fence] at same
    rw [ctxId]
    exact h.owner c s (render c _ same)
  · intro c d p here there
    exact h.alone c d p (render c p here) (render d p there)
  · intro picture mem
    rw [ended] at mem
    rw [fence]
    exact h.endedLe picture mem
  · rw [ended]
    exact h.pictures
  · intro c p same
    rw [ended]
    exact h.rendering c p (render c p same)
  · intro s set
    rw [current]
    exact h.pending s (pending s set)

/-- `rk_BeginPicture` by context `c` on surface `s`: the other surfaces and the other contexts keep
what they have, and the fence is the next one, or that of a field. -/
theorem PairInv.begin {c : ContextId} {s : SurfaceId} (h : PairInv r) (ended : r'.2 = r.2)
    (others : ∀ d, d ≠ c → (r'.1.contexts d).render = (r.1.contexts d).render)
    (render : (r'.1.contexts c).render = some (s, (r'.1.surfaces s).fence))
    (elsewhere : ∀ s', s' ≠ s → r'.1.surfaces s' = r.1.surfaces s')
    (ctxId : (r'.1.surfaces s).ctxId = some c)
    (pending : (r'.1.surfaces s).h264FieldPending = true →
      (r.1.surfaces s).h264FieldPending = true)
    (fence : (r.1.surfaces s).ctxId = some c ∧
        (r'.1.surfaces s).fence = (r.1.surfaces s).fence ∧
        (∃ first, r.current s = [first] ∧ first.h264Field = true) ∨
      (r'.1.surfaces s).fence = (r.1.surfaces s).fence + 1 ∧
        (r'.1.surfaces s).h264FieldPending = false) : PairInv r' := by
  have le : ∀ s', (r.1.surfaces s').fence ≤ (r'.1.surfaces s').fence := by
    intro s'
    by_cases same : s' = s
    · subst same
      rcases fence with ⟨-, same, -⟩ | ⟨next, -⟩ <;> omega
    · rw [elsewhere s' same]
  -- the fence of the picture just begun is that of no other context
  have fresh : ∀ d, d ≠ c → (r.1.contexts d).render ≠ some (s, (r'.1.surfaces s).fence) := by
    intro d other same
    rcases fence with ⟨mine, kept, -⟩ | ⟨next, -⟩
    · rw [kept] at same
      exact other (Option.some.inj ((h.owner d s same).symm.trans mine))
    · have below := h.renderLe d s _ same
      omega
  constructor
  · intro d s' fence' same
    by_cases own : d = c
    · subst own
      obtain ⟨rfl, rfl⟩ := Prod.mk.inj (Option.some.inj (render.symm.trans same))
      exact Nat.le_refl _
    · rw [others d own] at same
      exact Nat.le_trans (h.renderLe d s' fence' same) (le s')
  · intro d s' same
    by_cases own : d = c
    · subst own
      obtain ⟨rfl, -⟩ := Prod.mk.inj (Option.some.inj (render.symm.trans same))
      exact ctxId
    · rw [others d own] at same
      by_cases here : s' = s
      · subst here
        exact absurd same (fresh d own)
      · rw [elsewhere s' here] at same ⊢
        exact h.owner d s' same
  · intro d e p first second
    by_cases own : d = c
    · by_cases own' : e = c
      · rw [own, own']
      · subst own
        obtain rfl := Option.some.inj (render.symm.trans first)
        rw [others e own'] at second
        exact absurd second (fresh e own')
    · rw [others d own] at first
      by_cases own' : e = c
      · subst own'
        obtain rfl := Option.some.inj (render.symm.trans second)
        exact absurd first (fresh d own)
      · rw [others e own'] at second
        exact h.alone d e p first second
  · intro picture mem
    rw [ended] at mem
    exact Nat.le_trans (h.endedLe picture mem) (le picture.target.1)
  · rw [ended]
    exact h.pictures
  · intro d p same
    rw [ended]
    by_cases own : d = c
    · subst own
      obtain rfl := Option.some.inj (render.symm.trans same)
      rcases fence with ⟨-, kept, field⟩ | ⟨next, -⟩
      · rw [kept]
        exact .inr field
      · exact .inl (h.nothing_above (by omega))
    · rw [others d own] at same
      exact h.rendering d p same
  · intro s' set
    by_cases here : s' = s
    · subst here
      rcases fence with ⟨-, kept, -⟩ | ⟨-, cleared⟩
      · rw [show r'.current s' = r.current s' by simp only [Recorded.current, ended, kept]]
        exact h.pending s' (pending set)
      · rw [cleared] at set
        cases set
    · rw [elsewhere s' here] at set
      rw [show r'.current s' = r.current s' by
        simp only [Recorded.current, ended, elsewhere s' here]]
      exact h.pending s' set

/-- `rk_EndPicture` of context `c`, with the job of a picture under fence `p`. -/
theorem PairInv.finish {c : ContextId} {p : Target} {field : Bool} (h : PairInv r)
    (ended : r'.2 = r.2 ++ [⟨p, field⟩])
    (others : ∀ d, d ≠ c → (r'.1.contexts d).render = (r.1.contexts d).render)
    (before : (r.1.contexts c).render = some p) (after : (r'.1.contexts c).render = none)
    (follows : picturesUnder r.2 p = [] ∨ field = true)
    (fence : ∀ s, (r'.1.surfaces s).fence = (r.1.surfaces s).fence)
    (ctxId : ∀ s, (r'.1.surfaces s).ctxId = (r.1.surfaces s).ctxId)
    (pending : ∀ s, (r'.1.surfaces s).h264FieldPending = true →
      (r.1.surfaces s).h264FieldPending = true ∧ (s, (r.1.surfaces s).fence) ≠ p ∨
        field = true ∧ (s, (r.1.surfaces s).fence) = p) : PairInv r' := by
  have kept : ∀ d q, (r'.1.contexts d).render = some q →
      d ≠ c ∧ (r.1.contexts d).render = some q := by
    intro d q same
    by_cases own : d = c
    · subst own
      rw [after] at same
      cases same
    · rw [others d own] at same
      exact ⟨own, same⟩
  have under : ∀ q, q ≠ p → picturesUnder r'.2 q = picturesUnder r.2 q := by
    intro q other
    rw [ended, picturesUnder_append, picturesUnder_of_ne (Ne.symm other), List.append_nil]
  have here : picturesUnder r'.2 p = picturesUnder r.2 p ++ [⟨p, field⟩] := by
    rw [ended, picturesUnder_append]
    exact congrArg _ (picturesUnder_self ⟨p, field⟩)
  constructor
  · intro d s fence' same
    rw [fence]
    exact h.renderLe d s fence' (kept d _ same).2
  · intro d s same
    rw [fence] at same
    rw [ctxId]
    exact h.owner d s (kept d _ same).2
  · intro d e q first second
    exact h.alone d e q (kept d q first).2 (kept e q second).2
  · intro picture mem
    rw [ended] at mem
    rw [fence]
    rcases List.mem_append.mp mem with mem | mem
    · exact h.endedLe picture mem
    · obtain rfl := List.mem_singleton.mp mem
      exact h.renderLe c p.1 p.2 before
  · intro q
    by_cases same : q = p
    · subst same
      rw [here]
      rcases follows with empty | field
      · rw [empty]
        exact .inl (Nat.le_refl 1)
      · exact onePicture_field field (h.rendering c q before)
    · rw [under q same]
      exact h.pictures q
  · intro d q same
    obtain ⟨other, same⟩ := kept d q same
    have ne : q ≠ p := by
      rintro rfl
      exact other (h.alone d c q same before)
    rw [under q ne]
    exact h.rendering d q same
  · intro s set
    have current : r'.current s = picturesUnder r'.2 (s, (r.1.surfaces s).fence) := by
      simp only [Recorded.current, fence]
    rw [current]
    rcases pending s set with ⟨set, other⟩ | ⟨isField, same⟩
    · rw [under _ other]
      exact h.pending s set
    · rw [same, here]
      refine ⟨List.append_ne_nil_of_right_ne_nil _ (List.cons_ne_nil _ _), ?_⟩
      intro picture mem
      rcases List.mem_append.mp mem with mem | mem
      · rcases h.rendering c p before with empty | ⟨first, only, firstField⟩
        · rw [empty] at mem
          cases mem
        · rw [only] at mem
          obtain rfl := List.mem_singleton.mp mem
          exact firstField
      · obtain rfl := List.mem_singleton.mp mem
        exact isField

end

/-! ## Every step -/

/-- A pending field that is begun again before its pair is whole is the only picture there. -/
theorem PairInv.single {r : Recorded} (h : PairInv r) {s : SurfaceId}
    (pending : (r.1.surfaces s).h264FieldPending = true) (short : (r.current s).length < 2) :
    ∃ first, r.current s = [first] ∧ first.h264Field = true := by
  obtain ⟨nonempty, fields⟩ := h.pending s pending
  match pictures : r.current s with
  | [] => exact absurd pictures nonempty
  | [first] => exact ⟨first, rfl, fields first (pictures ▸ List.mem_singleton_self first)⟩
  | first :: second :: rest =>
    rw [pictures] at short
    simp only [List.length_cons] at short
    omega

/-- What `keepsPairs` says about a step that begins a picture. -/
theorem keepsPairs_begin {r : Recorded} {c : ContextId} {i : Nat} {s : SurfaceId}
    (call : (r.1.contexts c).calls[i]? = some (.begin s))
    (keeps : keepsPairs r (c, .app (.begin i)) = true) :
    (r.1.surfaces s).fence < 2 ^ 64 - 1 ∧
      ((r.current s).length < 2 ∨ (r.1.surfaces s).settled = true) := by
  simpa only [keepsPairs, call, Bool.and_eq_true, Bool.or_eq_true, decide_eq_true_eq] using keeps

theorem pairInv_step {r r' : Recorded} {act : ContextId × Action} (h : PairInv r)
    (keeps : keepsPairs r act = true) (hstep : recordedStep r act = some r') : PairInv r' := by
  obtain ⟨c, a⟩ := act
  obtain ⟨hstep, ended⟩ := recordedStep_cases hstep
  obtain ⟨ctx, t, hctx, self, others, surfaces⟩ := step_cases hstep
  have others' : ∀ d, d ≠ c → (r'.1.contexts d).render = (r.1.contexts d).render := by
    intro d other
    rw [others d other]
  cases ctxStep_picture hctx with
  | @begin i s action call render =>
    subst action
    obtain ⟨small, finished⟩ := keepsPairs_begin call keeps
    have here : r'.1.surfaces s =
        (SurfaceOp.begin c ((r.1.contexts c).coding == .avc)).apply (r.1.surfaces s) := by
      rw [surfaces, touched_self]
    refine h.begin (s := s) ?_ others' ?_ ?_ ?_ ?_ ?_
    · rw [ended]
      exact List.append_nil _
    · rw [self, render, here]
    · intro s' other
      rw [surfaces]
      refine touched_of_ne ?_
      rintro op same
      exact other (Prod.mk.inj (Option.some.inj same)).1.symm
    · rw [here]
      exact (SurfaceOp.begin_cases _ _ _).1
    · rw [here]
      exact SurfaceOp.pending fun _ _ same => by cases same
    · rw [here]
      rcases SurfaceOp.begin_fence small c ((r.1.contexts c).coding == .avc) with
        ⟨pending, mine, unsettled, kept⟩ | next
      · rcases finished with short | settled
        · exact .inl ⟨mine, kept, h.single pending short⟩
        · rw [unsettled] at settled
          cases settled
      · exact .inr next
  | @finish s fence job action render held after =>
    subst action
    have picture : endedBy (r.1.contexts c) (.app .release) = [⟨(s, fence), job.h264Field⟩] := by
      simp only [endedBy, render, held]
    have follows : picturesUnder r.2 (s, fence) = [] ∨ job.h264Field = true := by
      simpa only [keepsPairs, picture, List.all_cons, List.all_nil, Bool.and_true, Bool.or_eq_true,
        List.isEmpty_iff] using keeps
    have noBegin : ∀ s' d avc,
        (some (s, SurfaceOp.mark fence job.h264Field) : Touch) ≠ some (s', .begin d avc) := nofun
    have recorded := ended.trans (congrArg (r.2 ++ ·) picture)
    refine h.finish recorded others' render ?_ follows ?_ ?_ ?_
    · rw [self, after]
    · intro s'
      rw [surfaces]
      exact (touched_kept r.1.surfaces (noBegin s')).1
    · intro s'
      rw [surfaces]
      exact (touched_kept r.1.surfaces (noBegin s')).2.1
    · intro s'
      rw [surfaces]
      by_cases here : s' = s
      · subst here
        rw [touched_self]
        simp only [SurfaceOp.apply]
        split
        · rename_i current
          exact fun set => .inr ⟨set, by rw [current]⟩
        · rename_i stale
          exact fun set => .inl ⟨set, fun same => stale (Prod.mk.inj same).2⟩
      · rw [touched_of_ne fun op same => here (Prod.mk.inj (Option.some.inj same)).1.symm]
        exact fun set => .inl ⟨set, fun same => here (Prod.mk.inj same).1⟩
  | other none_ended render noBegin noMark =>
    refine h.other ?_ ?_ ?_ ?_ ?_
    · rw [ended, none_ended]
      exact List.append_nil _
    · intro d p same
      by_cases own : d = c
      · subst own
        rw [self] at same
        rcases render with kept | gone
        · rw [← kept]
          exact same
        · rw [gone] at same
          cases same
      · rw [← others' d own]
        exact same
    · intro s
      rw [surfaces]
      exact (touched_kept r.1.surfaces (noBegin s)).1
    · intro s
      rw [surfaces]
      exact (touched_kept r.1.surfaces (noBegin s)).2.1
    · intro s
      rw [surfaces]
      exact touched_pending (noMark s)

theorem pairInv_run {r r' : Recorded} {acts : List (ContextId × Action)} (h : PairInv r)
    (keeps : Throughout recordedStep (fun r act => keepsPairs r act = true) r acts)
    (hrun : run recordedStep r acts = some r') : PairInv r' :=
  run_invariant (I := PairInv) (fun _ _ _ h keeps hstep => pairInv_step h keeps hstep) acts r r' h
    keeps hrun

/-- Behind a frame or a pair, `rk_BeginPicture` issues a fence under which no picture has ended. -/
theorem PairInv.begin_whole {r r' : Recorded} (h : PairInv r) {c : ContextId} {i : Nat}
    {s : SurfaceId} (call : (r.1.contexts c).calls[i]? = some (.begin s))
    (keeps : keepsPairs r (c, .app (.begin i)) = true) (whole : Whole (r.current s))
    (hstep : recordedStep r (c, .app (.begin i)) = some r') :
    (r'.1.surfaces s).fence ≠ (r.1.surfaces s).fence ∧ r'.current s = [] := by
  obtain ⟨small, finished⟩ := keepsPairs_begin call keeps
  obtain ⟨hstep, ended⟩ := recordedStep_cases hstep
  obtain ⟨ctx, t, hctx, -, -, surfaces⟩ := step_cases hstep
  cases ctxStep_picture hctx with
  | begin action call' render =>
    cases action
    obtain rfl := Call.begin.inj (Option.some.inj (call.symm.trans call'))
    have next : (r'.1.surfaces s).fence = (r.1.surfaces s).fence + 1 := by
      rw [surfaces, touched_self]
      rcases SurfaceOp.begin_fence small c ((r.1.contexts c).coding == .avc) with
        ⟨pending, -, unsettled, -⟩ | ⟨next, -⟩
      · -- a pending field behind a frame or a settled pair is impossible
        have short : (r.current s).length < 2 := by
          rcases finished with short | settled
          · exact short
          · rw [unsettled] at settled
            cases settled
        obtain ⟨first, only, field⟩ := h.single pending short
        rcases whole with ⟨picture, same, frame⟩ | two
        · rw [only] at same
          obtain rfl := List.cons.inj same |>.1
          rw [field] at frame
          cases frame
        · omega
      · exact next
    refine ⟨by omega, ?_⟩
    have same : r'.2 = r.2 := ended.trans (List.append_nil _)
    simp only [Recorded.current, same]
    exact h.nothing_above (by omega)
  | finish action => cases action
  | other none_ended render noBegin noMark =>
    -- the call is a `rk_BeginPicture`
    have begun : t = some (s, .begin c ((r.1.contexts c).coding == .avc)) := by
      have happ : appStep c (r.1.contexts c) r.1.surfaces (.begin i) = some (ctx, t) := hctx
      cases appStep_move happ with
      | begin call' free =>
        obtain rfl := Call.begin.inj (Option.some.inj (call.symm.trans call'))
        rfl
    exact absurd begun (noBegin s c _)

/-- In every run that keeps to pairs, the pictures ended under a fence are one picture or the two
fields of a pair, and behind these every `rk_BeginPicture` on the surface issues a new fence. -/
theorem fence_shared_by_fields {coding : ContextId → Coding} {profileIdc : ContextId → Nat}
    {acts : List (ContextId × Action)} {r : Recorded}
    (keeps : Throughout recordedStep (fun r act => keepsPairs r act = true)
      (Recorded.init coding profileIdc) acts)
    (hrun : run recordedStep (Recorded.init coding profileIdc) acts = some r) :
    (∀ p, OnePicture (picturesUnder r.2 p)) ∧
    ∀ (c : ContextId) (i : Nat) (s : SurfaceId) (r' : Recorded),
      (r.1.contexts c).calls[i]? = some (.begin s) → Whole (r.current s) →
      keepsPairs r (c, .app (.begin i)) = true →
      recordedStep r (c, .app (.begin i)) = some r' →
      (r'.1.surfaces s).fence ≠ (r.1.surfaces s).fence ∧ r'.current s = [] := by
  have inv := pairInv_run (pairInv_init coding profileIdc) keeps hrun
  exact ⟨inv.pictures, fun c i s r' call whole keeps hstep => inv.begin_whole call keeps whole hstep⟩

/-- Two fields of a pair, and their frame before the surface is used again. -/
def fieldPairRun : List (ContextId × Action) :=
  runOf 0 (pictureCalls 0 (.avc true false true) ++ pictureCalls 0 (.avc true false true) ++
    submitJob ++ submitJob ++ [.worker (.next false)] ++ receiveFrame ⟨1, 0, false, false, false⟩ ++
    [.worker .publish, .app (.callBegin 0)])

theorem fence_shared_by_fields_pair : ∃ r r', run recordedStep
      (Recorded.init (fun _ => .avc) fun _ => 100) fieldPairRun = some r ∧
    recordedStep r (0, .app (.begin 0)) = some r' ∧ (r.current 0).length = 2 ∧
    OnePicture (r.current 0) ∧ (r'.1.surfaces 0).fence ≠ (r.1.surfaces 0).fence := by
  obtain ⟨r, r', hrun, hstep, call, whole, keeps, keeps'⟩ : ∃ r r', run recordedStep
      (Recorded.init (fun _ => .avc) fun _ => 100) fieldPairRun = some r ∧
      recordedStep r (0, .app (.begin 0)) = some r' ∧
      (r.1.contexts 0).calls[0]? = some (.begin 0) ∧ (r.current 0).length = 2 ∧
      check recordedStep keepsPairs (Recorded.init (fun _ => .avc) fun _ => 100) fieldPairRun =
        true ∧ keepsPairs r (0, .app (.begin 0)) = true :=
    ⟨_, _, rfl, rfl, rfl, rfl, rfl, rfl⟩
  obtain ⟨one, next⟩ := fence_shared_by_fields (throughout_of_check keeps) hrun
  exact ⟨r, r', hrun, hstep, whole, one _, (next 0 0 0 r' call (.inr whole) keeps' hstep).1⟩

/-- Three fields on one surface, before the worker has fetched the first of them. -/
def threeFieldsRun : List (ContextId × Action) :=
  runOf 0 (pictureCalls 0 (.avc true false true) ++ pictureCalls 0 (.avc true false true) ++
    pictureCalls 0 (.avc true false true))

/-- The three fields share one fence. -/
theorem threeFields_share_fence : ∃ r, run recordedStep
      (Recorded.init (fun _ => .avc) fun _ => 100) threeFieldsRun = some r ∧
    ¬ OnePicture (picturesUnder r.2 (0, 1)) := by
  refine ⟨_, rfl, ?_⟩
  rintro (short | ⟨two, -⟩)
  · exact absurd short (by decide)
  · exact absurd two (by decide)

end RockchipVaapi.Decode

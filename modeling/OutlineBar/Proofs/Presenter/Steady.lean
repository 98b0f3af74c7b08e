/-
Operations of a presenter when nothing panics.

If no call to the host panics and the grammar of the outliner does not either, attaching and
detaching return.  The other operations of a presenter are `Quiet`: whatever happens in them,
they change neither the client nor the grammar.
-/
import OutlineBar.Proofs.Presenter.Paired

namespace OutlineBar

open OutlineBar.Action

variable {η : Type} {H : Host η}

/-- Whether every call returns. -/
def Host.Steady (H : Host η) : Prop := ∀ call s, ∃ a s', H.answer call s = .ok a s'

theorem Host.Steady.recorded (steady : H.Steady) (caller : Option PresenterId) :
    (H.recorded caller).Steady := by
  intro call s
  obtain ⟨a, host, answered⟩ := steady call s.host
  exact ⟨a, _, Host.recorded_of_ok caller answered⟩

/-- Whether a grammar never panics. -/
def Grammar.Sound (grammar : Grammar) : Prop :=
  ∀ snapshot, ∃ outline, grammar snapshot = .ok outline

theorem Grammar.Sound.outline {grammar : Grammar} (sound : grammar.Sound) (snapshot : Snapshot) :
    ∃ outline, grammar.outline snapshot = .ok outline := by
  obtain ⟨outline, made⟩ := sound snapshot
  unfold Grammar.outline
  rw [made]
  exact ⟨_, rfl⟩

namespace Outliner

/-- Whether an outliner has no grammar that panics. -/
def Sound : Outliner → Prop
  | hosted _ => True
  | background service => service.grammar.Sound

theorem Sound.withBroadcast {o : Outliner} (sound : o.Sound) (broadcast : Broadcast) :
    (o.withBroadcast broadcast).Sound := by
  cases o <;> exact sound

theorem Sound.take {o o' : Outliner} (sound : o.Sound) {id : ListenerId} {completion : Completion}
    (taken : o.take? id = some (completion, o')) : o'.Sound := by
  obtain ⟨_, -, e⟩ := Option.map_eq_some_iff.mp taken
  cases e
  exact sound.withBroadcast _

end Outliner

/-- Whether work on a desk has nothing to do with whether the window has a client. -/
def DeskOperation.isQuiet : DeskOperation → Bool
  | attach | detach => false
  | _ => true

namespace Desk

/-! ## Attaching and detaching -/

/-- Whether a desk is the one of a presenter that was opened as `p`, and no grammar panics. -/
structure Tame (p : Presenter) (d : Desk η) : Prop where
  fixed : d.presenter.fixed = p.fixed
  sound : d.outliner.Sound

theorem paired_tame (steady : H.Steady) (p : Presenter) :
    Paired H (fun _ => True) p fun d e => e = d ∧ Tame p d where
  fixed r := r.2.fixed
  presenter r := by rw [r.1]
  owns _ _ := trivial
  made _ := trivial
  call := by
    rintro _ d call ⟨rfl, tame⟩ -
    obtain ⟨a, host, answered⟩ := steady call d.host
    exact ⟨a, host, host, answered, answered, rfl, tame.fixed, tame.sound⟩
  note := by
    rintro _ d event ⟨rfl, tame⟩
    exact ⟨rfl, tame.fixed, tame.sound⟩
  write := by
    rintro _ d q change ⟨rfl, tame⟩ fixed -
    exact ⟨rfl, fixed, tame.sound⟩
  hosted := by
    rintro _ d b ⟨rfl, -⟩ kind
    exact ⟨b, kind⟩
  parse := by
    rintro _ d service snapshot ⟨rfl, tame⟩ kind
    have sound : service.grammar.Sound := by
      have sound := tame.sound
      rw [kind] at sound
      exact sound
    obtain ⟨outline, parsed⟩ := sound.outline snapshot
    exact ⟨service, outline, kind, parsed, parsed, rfl, tame.fixed, sound⟩
  queue := by
    rintro _ d ⟨rfl, -⟩
    rfl
  take := by
    rintro _ d completion outliner ⟨rfl, tame⟩ taken
    exact ⟨outliner, taken, rfl, tame.fixed, tame.sound.take taken⟩

theorem attach_returns (steady : H.Steady) {d : Desk η} (sound : d.outliner.Sound) :
    ∃ status d', attach H d = .ok status d' ∧ Tame d.presenter d' := by
  obtain ⟨status, d', -, attached, -, -, tame⟩ :=
    (paired_tame steady d.presenter).both_attach ⟨rfl, rfl, sound⟩
  exact ⟨status, d', attached, tame⟩

theorem detach_returns (steady : H.Steady) {d : Desk η} (sound : d.outliner.Sound) :
    ∃ status d', Desk.detach H d = .ok status d' ∧ Tame d.presenter d' := by
  obtain ⟨status, d', -, detached, -, ⟨-, tame⟩, -⟩ :=
    (paired_tame steady d.presenter).both_detach ⟨rfl, rfl, sound⟩
  exact ⟨status, d', detached, tame⟩

/-! ## The other operations -/

/-- Whether a desk was left with the same client, and with a grammar that panics only if the
one before does. -/
structure Quiet (d d' : Desk η) : Prop where
  fixed : d'.presenter.fixed = d.presenter.fixed
  client : d'.presenter.client = d.presenter.client
  sound : d.outliner.Sound → d'.outliner.Sound

namespace Quiet

variable {d d' d'' : Desk η}

theorem refl (d : Desk η) : Quiet d d := ⟨rfl, rfl, fun sound => sound⟩

theorem trans (h : Quiet d d') (h' : Quiet d' d'') : Quiet d d'' :=
  ⟨h'.fixed.trans h.fixed, h'.client.trans h.client, fun sound => h'.sound (h.sound sound)⟩

theorem of_take {completion : Completion} {outliner : Outliner}
    (taken : d.outliner.take? d.presenter.listener = some (completion, outliner)) :
    Quiet d { d with outliner } := ⟨rfl, rfl, fun sound => sound.take taken⟩

end Quiet

variable (H) {start : Desk η}

theorem quiet_accept (completion : Completion) (d : Desk η) :
    Quiet d ((accept H completion).after d) := by
  have e := accept_eq H d completion
  cases attached : d.presenter.client with
  | none =>
    rw [attached] at e
    rw [after_of_ok e]
    exact ⟨rfl, rfl, fun sound => sound⟩
  | some client =>
    rw [attached] at e
    dsimp only at e
    split at e
    · rw [after_of_ok e]
      exact ⟨rfl, rfl, fun sound => sound⟩
    · split at e
      · rw [after_of_error e]
        exact ⟨rfl, rfl, fun sound => sound⟩
      · rw [after_of_ok e]
        exact ⟨rfl, rfl, fun sound => sound⟩

theorem keeps_quiet_accept (completion : Completion) :
    Keeps (Quiet start) (accept H completion) :=
  fun d quiet => quiet.trans (quiet_accept H completion d)

theorem keeps_quiet_drainUpTo (bound : Nat) : Keeps (Quiet start) (drainUpTo H bound) := by
  induction bound with
  | zero => exact Keeps.pure _
  | succ bound ih =>
    intro d quiet
    have e := drainUpTo_succ H d bound
    cases taken : d.outliner.take? d.presenter.listener with
    | none =>
      rw [taken] at e
      rw [after_of_ok e]
      exact quiet
    | some next =>
      rw [taken] at e
      unfold after
      rw [e]
      have first := quiet.trans (.of_take taken)
      exact (Keeps.bind (keeps_quiet_accept H next.1) fun _ =>
        Keeps.bind ih fun _ => Keeps.pure _) _ first

theorem quiet_drain (d : Desk η) : Quiet d ((drain H).after d) :=
  Keeps.get_bind (fun d quiet => keeps_quiet_drainUpTo H _ d quiet) d (.refl d)

theorem indifferent_quiet : Indifferent H (Quiet start) where
  call _ _ _ _ _ quiet := ⟨quiet.fixed, quiet.client, quiet.sound⟩
  views _ view quiet := by
    refine quiet.trans ?_
    unfold Presenter.noteView
    split <;> exact ⟨rfl, rfl, fun sound => sound⟩
  outliner d service next own same quiet := by
    refine quiet.trans ⟨rfl, rfl, fun sound => ?_⟩
    rw [own] at sound
    show next.grammar.Sound
    rw [same]
    exact sound
  note _ _ quiet := ⟨quiet.fixed, quiet.client, quiet.sound⟩

/-- Work that neither attaches nor detaches a window is quiet. -/
theorem quiet_leaves {operation : DeskOperation} (kept : operation.isQuiet = true) (d : Desk η) :
    Quiet d (operation.leaves H d) := by
  have others : Indifferent H (Quiet d) := indifferent_quiet H
  cases operation with
  | attach | detach => cases kept
  | accept completion => exact quiet_accept H completion d
  | drain => exact quiet_drain H d
  | requestOutline => exact others.keeps_requestOutline d (.refl d)
  | noteView view => exact others.keeps_noteView view d (.refl d)
  | recordViews => exact others.keeps_recordViews d (.refl d)

end Desk

end OutlineBar

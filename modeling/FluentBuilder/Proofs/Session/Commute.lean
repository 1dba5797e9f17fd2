import FluentBuilder.Proofs.Session.Invariant

namespace FluentBuilder.Session

variable {session : Session} {p q : Text}

def opening (session : Session) (path : Text) : Session :=
  { session with openPath := some path }

theorem play_open_run (session : Session) (p q : Text) :
    session.play [.openDocument (some p), .run, .openDocument (some q), .run] =
      ([.text (some p), .transcript (session.opening p).run.1,
        .text (some q), .transcript ((session.opening p).run.2.opening q).run.1],
        ((session.opening p).run.2.opening q).run.2) :=
  rfl

/-- A run finds its document as it was before another run, if that one has not written it. -/
theorem run_opening_after (h : q ≠ Destination.ofDocument p session.settings.suffix) :
    ((session.opening p).run.2.opening q).run =
      ((session.opening q).run.1,
        { session.opening q with
          files := (session.opening q).filed ((session.opening p).filed session.files) }) := by
  have hdocument : ∀ path, (session.opening q).openPath = some path →
      ((session.opening p).filed session.files).text? path = session.files.text? path := by
    intro path hopen
    obtain rfl := Option.some.inj hopen
    have hopening : (session.opening p).openPath = some p := rfl
    exact text?_filed_of_ne hopening h session.files
  have hlater := run_with_files hdocument
  rw [run_eq (session.opening p)]
  exact hlater

/-- Documents with different normal paths have different builder files. -/
theorem Intact.ofDocument_inj (h : session.Intact)
    (hne : Destination.normalize p ≠ Destination.normalize q) :
    Destination.ofDocument p session.settings.suffix ≠
      Destination.ofDocument q session.settings.suffix := by
  rwa [Ne, Destination.ofDocument_eq_ofDocument_iff h.valid.slash]

theorem Intact.filed_comm (h : session.Intact)
    (hne : Destination.normalize p ≠ Destination.normalize q) :
    (session.opening q).filed ((session.opening p).filed session.files) =
      (session.opening p).filed ((session.opening q).filed session.files) := by
  rcases run_cases (session.opening p) with ⟨-, -, hp⟩ | ⟨_, _, b, ⟨⟩, -, -, -, hp⟩
  · rw [hp, hp]
  · rcases run_cases (session.opening q) with ⟨-, -, hq⟩ | ⟨_, _, b', ⟨⟩, -, -, -, hq⟩
    · rw [hq, hq]
    · rw [hp, hq, hq, hp]
      exact Store.put_comm h.sorted (h.ofDocument_inj hne)

/-- Two documents neither of which is the builder file of the other can be run in either order: each
run answers the same, and the sessions afterwards differ in the open path alone. -/
theorem runs_commute (h : Reachable session)
    (hne : Destination.normalize p ≠ Destination.normalize q)
    (hp : p ≠ Destination.ofDocument q session.settings.suffix)
    (hq : q ≠ Destination.ofDocument p session.settings.suffix) :
    ∃ t t' after,
      session.play [.openDocument (some p), .run, .openDocument (some q), .run] =
        ([.text (some p), .transcript t, .text (some q), .transcript t'], after) ∧
      session.play [.openDocument (some q), .run, .openDocument (some p), .run] =
        ([.text (some q), .transcript t', .text (some p), .transcript t],
          { after with openPath := some p }) := by
  refine ⟨(session.opening p).run.1, (session.opening q).run.1,
    { session.opening q with
      files := (session.opening q).filed ((session.opening p).filed session.files) }, ?_, ?_⟩
  · rw [play_open_run, run_opening_after hq]
  · rw [play_open_run, run_opening_after hp, h.intact.filed_comm hne]
    rfl

theorem runs_commute_users :
    let session := (play {} [
      .setWorkspace (some "/work".toList),
      .put "src\\user.ts".toList "export type User = \x7b name: string \x7d".toList,
      .put "src/user.type.ts".toList "export type User = \x7b id: number \x7d".toList]).2
    ∃ t t' after,
      session.play [.openDocument (some "src\\user.ts".toList), .run,
          .openDocument (some "src/user.type.ts".toList), .run] =
        ([.text (some "src\\user.ts".toList), .transcript t,
          .text (some "src/user.type.ts".toList), .transcript t'], after) ∧
      session.play [.openDocument (some "src/user.type.ts".toList), .run,
          .openDocument (some "src\\user.ts".toList), .run] =
        ([.text (some "src/user.type.ts".toList), .transcript t',
          .text (some "src\\user.ts".toList), .transcript t],
          { after with openPath := some "src\\user.ts".toList }) ∧
      after.files.paths = ["src/user.builder.ts".toList, "src/user.type.builder.ts".toList,
        "src/user.type.ts".toList, "src\\user.ts".toList] := by
  intro session
  have hreach : Reachable session := reachable_play _ .fresh
  obtain ⟨t, t', after, hfirst, hsecond⟩ := runs_commute (p := "src\\user.ts".toList)
    (q := "src/user.type.ts".toList) hreach (by decide +kernel) (by decide +kernel) (by decide +kernel)
  refine ⟨t, t', after, hfirst, hsecond, ?_⟩
  have hafter := congrArg (fun played => played.2.files.paths) hfirst
  exact hafter.symm.trans (by decide +kernel)

end FluentBuilder.Session

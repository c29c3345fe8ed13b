import SpacewalkAcquire.Proofs.Session.Resume

/-!
# One transfer from two states

* `Session.Provided s` : the session holds all for which files are read;
* `Twin G b b' p p'` : two resumed sessions whose files are related by `G`, and in which the same was said behind `b`
  and `b'`, logins apart;
* `announce_twins`, `receive_twins`, `fetch_twins` : from twins a transfer has the same result, says the same and leaves
  twins, whatever each of the two sessions had established before.
-/

namespace SpacewalkAcquire

def Session.Provided (s : Session) : Prop := s.credentials?.isSome = true ∧ s.channels?.isSome = true

namespace Transfer

open SessionT Session Method

variable {decode : Http.Decoder} {w₀ : World} {server : Server} {connection : Connection}
  {configuration : StateM World (Except Failure Server)}
  {G G' : FileTree → FileTree → Prop} {b b' : List Message} {p p' q q' : Session × Recorded World}

variable (decode w₀ server connection) in
/-- Two resumed sessions whose files are related by `G`, and in which the same was said, logins apart. -/
structure Twin (G : FileTree → FileTree → Prop) (b b' : List Message) (p p' : Session × Recorded World) : Prop where
  left : Resumes decode w₀ server connection p
  right : Resumes decode w₀ server connection p'
  files : G p.2.world.files p'.2.world.files
  told : ∃ said, p.2.told = b ++ said ∧ p'.2.told = b' ++ said

theorem Twin.begin (hp : Resumes decode w₀ server connection p) (hp' : Resumes decode w₀ server connection p')
    (hfiles : G p.2.world.files p'.2.world.files) : Twin decode w₀ server connection G p.2.told p'.2.told p p' :=
  ⟨hp, hp', hfiles, [], (List.append_nil _).symm, (List.append_nil _).symm⟩

theorem Twin.mono (h : Twin decode w₀ server connection G b b' p p') (hG : ∀ t t', G t t' → G' t t') :
    Twin decode w₀ server connection G' b b' p p' := ⟨h.left, h.right, hG _ _ h.files, h.told⟩

theorem Twin.still (h : Twin decode w₀ server connection G b b' p p') (hq : Resumes decode w₀ server connection q)
    (hq' : Resumes decode w₀ server connection q') (hstill : Still p q) (hstill' : Still p' q') :
    Twin decode w₀ server connection G b b' q q' := by
  refine ⟨hq, hq', ?_, ?_⟩
  · rw [hstill.files, hstill'.files]
    exact h.files
  · rw [hstill.told, hstill'.told]
    exact h.told

/-! ## What is said -/

theorem told_of_sent {r r' : Recorded World} (h : r'.sent = r.sent) : r'.told = r.told := by
  unfold Recorded.told
  rw [h]

theorem told_append {r r' : Recorded World} {message : Message} (h : r'.sent = r.sent ++ [message])
    (hmessage : isAboutLogin message = false) : r'.told = r.told ++ [message] := by
  unfold Recorded.told
  rw [h, List.filter_append]
  simp [hmessage]

theorem told_eq {r r' : Recorded World} {message : Message} (h : r'.sent = r.sent ++ [message])
    (hmessage : isAboutLogin message = true) : r'.told = r.told := by
  unfold Recorded.told
  rw [h, List.filter_append]
  simp [hmessage]

theorem isAboutLogin_eq_false {message : Message} (h : beginsLogin message = false ∧ endsLogin message = false) :
    isAboutLogin message = false := by
  rw [isAboutLogin, h.1, h.2, Bool.false_or]

theorem record_alike {r : Recorded World} (h : World.Alike w₀ r.world) (message : Message) :
    (World.environment.record message r).1 = .ok () ∧
      (World.environment.record message r).2.sent = r.sent ++ [message] ∧
      World.Alike w₀ (World.environment.record message r).2.world ∧
      (World.environment.record message r).2.world.files = r.world.files := by
  have hsend := World.send_alike h message
  unfold Environment.record
  generalize World.environment.send message r.world = sent at hsend ⊢
  obtain ⟨hok, hrest⟩ := hsend
  rcases sent with ⟨e | _, w⟩
  · cases hok
  · exact ⟨rfl, rfl, hrest⟩

theorem resumes_record (h : Resumes decode w₀ server connection p) (message : Message) :
    Resumes decode w₀ server connection (p.1, (World.environment.record message p.2).2) := by
  obtain ⟨-, -, hworld, hfiles⟩ := record_alike h.world message
  exact h.withWorld hworld hfiles

theorem say_twins (h : Twin decode w₀ server connection G b b' p p') {message : Message}
    (hmessage : beginsLogin message = false ∧ endsLogin message = false)
    {succeeded : Unit → Session × Recorded World → Session × Recorded World → Prop}
    {failed : Failure → Session × Recorded World → Session × Recorded World → Prop}
    (ok : ∀ r r', Twin decode w₀ server connection G b b' (p.1, r) (p'.1, r') → succeeded () (p.1, r) (p'.1, r')) :
    (ofEnvironment (World.environment.record message)).Coincides p p' succeeded failed := by
  obtain ⟨hok, hsent, -, hfiles⟩ := record_alike h.left.world message
  obtain ⟨hok', hsent', -, hfiles'⟩ := record_alike h.right.world message
  refine .ofEnvironment (hok.trans hok'.symm)
    (fun _ _ => ok _ _ ⟨resumes_record h.left _, resumes_record h.right _, ?_, ?_⟩) fun e he => ?_
  · rw [hfiles, hfiles']
    exact h.files
  · obtain ⟨said, hsaid, hsaid'⟩ := h.told
    have hsilent := isAboutLogin_eq_false hmessage
    refine ⟨said ++ [message], ?_, ?_⟩
    · rw [told_append hsent hsilent, hsaid, List.append_assoc]
    · rw [told_append hsent' hsilent, hsaid', List.append_assoc]
  · rw [hok] at he
    cases he

/-- A message that `isAboutLogin` leaves everything as it was. -/
theorem note_resumes (h : Resumes decode w₀ server connection p) {message : Message}
    (hmessage : isAboutLogin message = true)
    {succeeded : Unit → Session × Recorded World → Prop} {failed : Failure → Session × Recorded World → Prop}
    (ok : ∀ r, Resumes decode w₀ server connection (p.1, r) → Still p (p.1, r) → succeeded () (p.1, r)) :
    (ofEnvironment (World.environment.record message)).Leads p succeeded failed := by
  obtain ⟨hok, hsent, -, hfiles⟩ := record_alike h.world message
  have hrun : (ofEnvironment (World.environment.record message)).runFrom p =
      (.ok (), p.1, (World.environment.record message p.2).2) := by
    rw [runFrom_ofEnvironment, hok]
  exact .of_runFrom hrun (ok _ (resumes_record h message) ⟨told_eq hsent hmessage, hfiles⟩)

/-! ## Stages -/

variable (configuration) in
/-- A login has the same result as one in `w₀`, now or earlier. -/
theorem logIn_resumes (h : Resumes decode w₀ server connection p) (uri : String) :
    (logIn (World.sources decode configuration) World.environment.record uri).Leads p
      (fun _ q => (w₀.credentials decode server).map (fun _ => ()) = .ok () ∧
        (Resumes decode w₀ server connection q ∧ q.1.isLoggedIn = true) ∧ Still p q)
      (fun e q => (w₀.credentials decode server).map (fun _ => ()) = .error e ∧
        Resumes decode w₀ server connection q ∧ Still p q) := by
  unfold logIn
  refine .bind (.get ?_)
  cases hlogin : p.1.isLoggedIn with
  | true =>
    obtain ⟨credentials, hcredentials⟩ := Option.isSome_iff_exists.1 hlogin
    refine .pure ⟨?_, ⟨h, hlogin⟩, .refl p⟩
    rw [h.credentials _ hcredentials]
    rfl
  | false =>
    have hbegins : isAboutLogin (loggingIn uri) = true := by simp [isAboutLogin, loggingIn, hasNote_status]
    have hends : isAboutLogin (loggedIn uri) = true := by simp [isAboutLogin, loggedIn, hasNote_status]
    refine .bind (note_resumes h hbegins fun r hr hstill => .bind (.discard ?_))
    refine (ensureCredentials_resumes hr).mono ?_ ?_
    · rintro credentials q ⟨hgranted, ⟨hq, hkept⟩, hstill'⟩
      refine note_resumes hq hends fun r' hr' hstill'' => ⟨?_, ⟨hr', ?_⟩, (hstill.trans hstill').trans hstill''⟩
      · rw [hgranted]
        rfl
      · show q.1.credentials?.isSome = true
        rw [hkept]
        rfl
    · rintro e q ⟨hrefused, hq, hstill'⟩
      refine ⟨?_, hq, hstill.trans hstill'⟩
      rw [hrefused]
      rfl

/-- What is to be asked for is the same. Both sessions then are `Provided` with all for which files are read. -/
theorem locate_twins (h : Twin decode w₀ server connection G b b' p p') (hlogin : p.1.isLoggedIn = true)
    (hlogin' : p'.1.isLoggedIn = true) (request : Request) :
    (locate (World.sources decode configuration) request).Coincides p p'
      (fun _ q q' => Twin decode w₀ server connection G b b' q q' ∧ q.1.Provided ∧ q'.1.Provided)
      (fun _ q q' => Twin decode w₀ server connection G b b' q q') := by
  obtain ⟨credentials, hcredentials⟩ := Option.isSome_iff_exists.1 hlogin
  obtain ⟨credentials', hcredentials'⟩ := Option.isSome_iff_exists.1 hlogin'
  have hsame := h.left.credentials _ hcredentials
  rw [h.right.credentials _ hcredentials', Except.ok.injEq] at hsame
  subst hsame
  unfold locate baseChannel
  refine .bind (.bind ((Coincides.of_leads (ensureChannels_resumes h.left) (ensureChannels_resumes h.right)).mono ?_ ?_))
  · rintro channels q₁ q₁' ⟨⟨⟨hq₁, hkept₁, hlisted₁⟩, hstill₁⟩, ⟨hq₁', hkept₁', hlisted₁'⟩, hstill₁'⟩
    have h₁ := h.still hq₁ hq₁' hstill₁ hstill₁'
    refine .liftExcept (fun label _ => .bind ?_) fun _ _ => h₁
    have hheaders := ensureHeaders_resumes h₁.left (hkept₁.trans hcredentials)
    have hheaders' := ensureHeaders_resumes h₁.right (hkept₁'.trans hcredentials')
    refine (Coincides.of_leads hheaders hheaders').mono ?_ ?_
    · rintro headers q₂ q₂' ⟨⟨⟨hq₂, hkept₂, hlisted₂⟩, hstill₂⟩, ⟨hq₂', hkept₂', hlisted₂'⟩, hstill₂'⟩
      have h₂ := h₁.still hq₂ hq₂' hstill₂ hstill₂'
      have hprovided : q₂.1.Provided := by
        unfold Provided
        rw [hkept₂, hkept₁, hcredentials, hlisted₂, hlisted₁]
        exact ⟨rfl, rfl⟩
      have hprovided' : q₂'.1.Provided := by
        unfold Provided
        rw [hkept₂', hkept₁', hcredentials', hlisted₂', hlisted₁']
        exact ⟨rfl, rfl⟩
      refine .bind (.liftExcept (fun sent _ => .bind ?_) fun _ _ => h₂)
      refine .of_runFrom (runFrom_currentServer hq₂.known) (runFrom_currentServer hq₂'.known) (.bind ?_)
      refine .liftExcept (fun address _ => .bind ?_) fun _ _ => h₂
      exact .of_runFrom (runFrom_ensureConnection hq₂.connected) (runFrom_ensureConnection hq₂'.connected)
        (.pure ⟨h₂, hprovided, hprovided'⟩)
    · rintro e q q' ⟨⟨hq, hstill⟩, hq', hstill'⟩
      exact h₁.still hq hq' hstill hstill'
  · rintro e q q' ⟨⟨hq, hstill⟩, hq', hstill'⟩
    exact h.still hq hq' hstill hstill'

/-- In worlds like `w₀` the server gives the same reply, whatever it was asked before. -/
theorem send_twins {r r' : Recorded World} (h : World.Alike w₀ r.world) (h' : World.Alike w₀ r'.world)
    (channel : Connection) (content : Http.Request) :
    let x := Http.send (World.environment.recorded.exchange channel) content
    (x r).1 = (x r').1 ∧ World.Alike w₀ (x r).2.world ∧ (x r).2.world.files = r.world.files ∧ (x r).2.sent = r.sent := by
  intro x
  have hforget := Correspondence.follow_rel (R := .forgetting World)
    ((Correspondence.forgetting_environments World.environment).exchange channel) (Http.longestChain - 1) content
  have hkeep := Correspondence.follow_rel (R := .keeping Recorded.sent)
    ((Correspondence.keeping_sent_environments World.environment).exchange channel) (Http.longestChain - 1) content
  have hsame := Correspondence.follow_rel (Correspondence.alike_exchange w₀
    (fun t t' => t = r.world.files ∧ t' = r'.world.files) channel) (Http.longestChain - 1) content
  obtain ⟨hvalue, halike, -, hfiles, -⟩ := hsame r.world r'.world h h' ⟨rfl, rfl⟩
  refine ⟨?_, ?_, ?_, hkeep.2 r⟩
  · exact (hforget r).1.trans (hvalue.trans (hforget r').1.symm)
  · rw [show (x r).2.world = _ from (hforget r).2]
    exact halike
  · rw [show (x r).2.world = _ from (hforget r).2]
    exact hfiles

theorem ask_twins (h : Twin decode w₀ server connection G b b' p p') (uri : String) (channel : Connection)
    (content : Http.Request) :
    (ask World.environment.recorded uri channel content).Coincides p p'
      (fun _ q q' => Twin decode w₀ server connection G b b' q q' ∧ q.1 = p.1 ∧ q'.1 = p'.1)
      (fun _ q q' => Twin decode w₀ server connection G b b' q q') := by
  obtain ⟨hvalue, halike, hfiles, hsent⟩ := send_twins h.left.world h.right.world channel content
  obtain ⟨-, halike', hfiles', hsent'⟩ := send_twins h.right.world h.left.world channel content
  have hleft := h.left.withWorld halike hfiles
  have hright := h.right.withWorld halike' hfiles'
  have hasked := h.still hleft hright ⟨told_of_sent hsent, hfiles⟩ ⟨told_of_sent hsent', hfiles'⟩
  unfold ask
  refine .bind (.ofEnvironment (congrArg Except.ok hvalue) (fun result _ => ?_) fun e he => ?_)
  · cases result with
    | error why => exact .throw hasked
    | ok reply =>
      dsimp only
      split
      · exact .throw hasked
      · exact .pure ⟨hasked, rfl, rfl⟩
  · cases he

/-- Where nothing more is read of the files, they may change. -/
theorem resumes_of_provided (h : Resumes decode w₀ server connection p) (hprovided : p.1.Provided) {r : Recorded World}
    (hworld : World.Alike w₀ r.world) : Resumes decode w₀ server connection (p.1, r) := by
  refine ⟨h.base, hworld, h.known, h.connected, h.credentials, h.headers, h.channels, fun hnone => ?_⟩
  obtain ⟨hcredentials, hchannels⟩ := hprovided
  rcases hnone with hnone | hnone
  · rw [hnone] at hcredentials
    cases hcredentials
  · rw [hnone] at hchannels
    cases hchannels

/-- `receive` does the same if the files agree on the way to the destination. -/
theorem receive_twins {request : Request} (reply : Http.Reply)
    (h : Twin decode w₀ server connection (FileTree.AgreeOnWay request.filename) b b' p p') (hprovided : p.1.Provided)
    (hprovided' : p'.1.Provided) :
    (receive World.environment.recorded request reply).Coincides p p'
      (fun _ q q' => Twin decode w₀ server connection (FileTree.AgreeOnWay request.filename) b b' q q')
      (fun _ q q' => Twin decode w₀ server connection (FileTree.AgreeOnWay request.filename) b b' q q') := by
  have hforget := Correspondence.store_rel
    ((Correspondence.forgetting_environments World.environment).toChanges.at request.filename) reply.body
  have hkeep := (Correspondence.store_rel
    ((Correspondence.keeping_sent_environments World.environment).toChanges.at request.filename) reply.body).2
  have hsame := Correspondence.store_rel (Correspondence.alike_changes w₀ request.filename) reply.body
  obtain ⟨hvalue, halike, halike', hfiles⟩ := hsame _ _ h.left.world h.right.world h.files
  obtain ⟨said, hsaid, hsaid'⟩ := h.told
  have hstored : Twin decode w₀ server connection (FileTree.AgreeOnWay request.filename) b b'
      (p.1, (store World.environment.recorded request.filename reply.body p.2).2)
      (p'.1, (store World.environment.recorded request.filename reply.body p'.2).2) := by
    refine ⟨resumes_of_provided h.left hprovided ?_, resumes_of_provided h.right hprovided' ?_, ?_, said, ?_, ?_⟩
    · exact (hforget p.2).2 ▸ halike
    · exact (hforget p'.2).2 ▸ halike'
    · exact (hforget p.2).2 ▸ (hforget p'.2).2 ▸ hfiles
    · exact (told_of_sent (hkeep p.2)).trans hsaid
    · exact (told_of_sent (hkeep p'.2)).trans hsaid'
  unfold receive
  refine .bind (.ofEnvironment ?_ (fun digest _ => .pure hstored) fun _ _ => hstored)
  exact (hforget p.2).1.trans (hvalue.trans (hforget p'.2).1.symm)

/-- Up to the announcement of the body, `announce` says the same and fails in the same way, if it does. -/
theorem announce_twins (h : Twin decode w₀ server connection G b b' p p') (request : Request) :
    (announce World.environment.recorded (World.sources decode configuration) World.environment.record
      request).Coincides p p'
      (fun _ q q' => Twin decode w₀ server connection G b b' q q' ∧ q.1.Provided ∧ q'.1.Provided)
      (fun _ q q' => Twin decode w₀ server connection G b b' q q') := by
  have hchecked : (checkHost (World.sources decode configuration) request).Coincides p p' (fun _ q q' => q = p ∧ q' = p')
      (fun _ q q' => q = p ∧ q' = p') := by
    unfold Coincides
    rw [runFrom_checkHost _ request h.left.known, runFrom_checkHost _ request h.right.known]
    cases server.serves request.uri with
    | true => exact .inl ⟨(), p, p', rfl, rfl, rfl, rfl⟩
    | false => exact .inr ⟨_, p, p', rfl, rfl, rfl, rfl⟩
  unfold announce
  -- Stage by stage; the sessions hold all for which files are read from `locate` on.
  refine .bind (hchecked.mono ?_ ?_)
  · rintro - _ _ ⟨rfl, rfl⟩
    have hlogin := logIn_resumes configuration h.left request.uri.text
    have hlogin' := logIn_resumes configuration h.right request.uri.text
    refine .bind ((Coincides.of_leads hlogin hlogin').mono ?_ ?_)
    · rintro - q₁ q₁' ⟨⟨⟨hq₁, hlogged⟩, hstill₁⟩, ⟨hq₁', hlogged'⟩, hstill₁'⟩
      refine .bind ((locate_twins (h.still hq₁ hq₁' hstill₁ hstill₁') hlogged hlogged' request).mono ?_ ?_)
      · rintro ⟨channel, content⟩ q₂ q₂' ⟨h₂, hprovided₂, hprovided₂'⟩
        refine .bind (say_twins h₂ (silent_waiting _) fun r r' h₃ => .bind ((ask_twins h₃ _ channel content).mono ?_ ?_))
        · rintro reply q₄ q₄' ⟨h₄, hsession, hsession'⟩
          refine .bind (say_twins h₄ (silent_announcement _ reply) fun r r' h₅ => .pure ⟨h₅, ?_, ?_⟩)
          · rw [hsession]
            exact hprovided₂
          · rw [hsession']
            exact hprovided₂'
        · exact fun e q q' hq => hq
      · exact fun e q q' hq => hq
    · rintro e q q' ⟨⟨hq, hstill⟩, hq', hstill'⟩
      exact h.still hq hq' hstill hstill'
  · rintro e _ _ ⟨rfl, rfl⟩
    exact h

variable (configuration) in
/-- `fetch` says the same and has the same result if the files agree on the way to its destination, and there they agree
afterwards. -/
theorem fetch_twins {request : Request}
    (h : Twin decode w₀ server connection (FileTree.AgreeOnWay request.filename) b b' p p') :
    (fetch World.environment.recorded (World.sources decode configuration) World.environment.record
      request).Coincides p p'
      (fun _ q q' => Twin decode w₀ server connection (FileTree.AgreeOnWay request.filename) b b' q q')
      (fun _ q q' => Twin decode w₀ server connection (FileTree.AgreeOnWay request.filename) b b' q q') :=
  .bind ((announce_twins h request).mono
    (fun reply _ _ ⟨hannounced, hprovided, hprovided'⟩ => receive_twins reply hannounced hprovided hprovided')
    fun _ _ _ hfailed => hfailed)

end Transfer

end SpacewalkAcquire

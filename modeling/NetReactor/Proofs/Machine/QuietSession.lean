import NetReactor.Proofs.Machine.Quiet
import NetReactor.Proofs.Session.Within
/-!
Secure sessions are quiet: whatever the provider and the byte stream under a session answer, none of its
calls concerns an event loop or a callback.
-/
namespace NetReactor.Machine

variable {ω α : Type} (host : Host ω)

def Quieted (before after : Machine ω) : Prop := ∃ events, Quiet events before after

instance : IsPreorder (Machine ω) Quieted where
  refl machine := ⟨[], .refl machine⟩
  trans _ _ _ := fun ⟨_, h⟩ ⟨_, h'⟩ => ⟨_, h.trans h'⟩

theorem quiet_transport (id : SessionId) (asked : Bool) (link : Link) :
    (transport host id asked link).StaysWithin Quieted ∧
      Quietly (transport host id asked link).close := by
  cases link with
  | socket socket =>
    exact ⟨{
      send := fun _ => Quietly.bind .get fun _ => quietly_call host _ _ fun _ _ => rfl
      recv := fun _ => Quietly.bind .get fun _ => quietly_recv host _ _ },
      quietly_closeSocket host socket asked⟩
  | wire =>
    exact ⟨{
      send := fun _ => Quietly.recorded _ (fun _ => rfl) fun _ => rfl
      recv := fun _ => Quietly.recorded _ (fun _ => rfl) fun _ => rfl },
      .recorded _ (fun _ => rfl) fun _ => rfl⟩

theorem quiet_channel (id : SessionId) : (channel host id).StaysWithin Quieted where
  acquireCredentials _ := Quietly.recorded _ (fun _ => rfl) fun _ => rfl
  handshakeStep _ _ := Quietly.recorded _ (fun _ => rfl) fun _ => rfl
  streamSizes := Quietly.recorded _ (fun _ => rfl) fun _ => rfl
  encrypt _ := Quietly.bind (.modify fun machine => Quiet.note machine rfl rfl) fun _ => .outer _
  decrypt _ := Quietly.recorded _ (fun _ => rfl) fun _ => rfl
  shutdownToken := Quietly.recorded _ (fun _ => rfl) fun _ => rfl

theorem quietly_sessionClose (id : SessionId) (asked : Bool) (link : Link) (session : Session) :
    Quietly (session.close (transport host id asked link) (channel host id)) := by
  obtain ⟨stays, closes⟩ := quiet_transport host id asked link
  intro machine
  obtain ⟨before, ⟨early, sent⟩, last⟩ :=
    close_within stays (quiet_channel host id) session machine
  obtain ⟨late, closed⟩ := closes before
  exact ⟨_, last ▸ sent.trans closed⟩

theorem quietly_dropSession (opened : OpenSession) : Quietly (dropSession host opened) :=
  .bind (quietly_sessionClose host _ _ _ _) fun _ => .pure _

theorem quietly_openSession (link : Link) (context : Context) (prepare : SessionId → ω → ω) :
    Quietly (openSession host link context prepare) := by
  have next : Quietly (nextSession : Step ω SessionId) :=
    fun _ => ⟨[], Quiet.of_same rfl rfl rfl rfl rfl rfl⟩
  refine .bind next fun id => .bind (.modify_same fun _ => ?_) fun _ => .bind ?_ fun _ => .pure _
  · exact Quiet.of_same rfl rfl rfl rfl rfl rfl
  · exact within_create (quiet_channel host id) context

theorem quietly_storeSession (name : String) (opened : OpenSession) :
    Quietly (storeSession host name opened) := by
  refine .bind .get fun machine => .bind (.modify_same fun _ => ?_) fun _ => ?_
  · exact Quiet.of_same rfl rfl rfl rfl rfl rfl
  · split
    · exact quietly_dropSession host _
    · exact .pure _

theorem quiet_shakeHands (budget : Nat) (opened : OpenSession) :
    QuietRun (shakeHands host budget opened) :=
  .bind (runsWithin_handshake (quiet_transport host _ _ _).1 (quiet_channel host _) _ _) fun _ => .pure _

theorem quiet_connectSession (budget : Nat) (address : Address) (opened : OpenSession) :
    QuietRun (connectSession host budget address opened) := by
  have connecting : Quietly (connectLink host opened.link address) := by
    unfold connectLink
    split
    · exact .bind .get fun _ => quietly_call host _ _ fun _ _ => rfl
    · exact .pure _
  refine .bind (.lift connecting) fun result => ?_
  cases result with
  | error failure => exact .pure _
  | ok done => exact quiet_shakeHands host budget opened

theorem quiet_askSession (budget : Nat) (opened : OpenSession) (request : SessionRequest) :
    QuietRun (askSession host budget opened request) := by
  have stays asked := (quiet_transport host opened.id asked opened.link).1
  have channel := quiet_channel host opened.id
  cases request with
  | connect address => exact .bind (quiet_connectSession host _ _ _) fun _ => .pure _
  | handshake => exact .bind (quiet_shakeHands host _ _) fun _ => .pure _
  | send data => exact .bind (.lift (within_send (stays _) channel _ _)) fun _ => .pure _
  | recv buffer => exact .bind (.lift (within_recv (stays _) channel _ _)) fun _ => .pure _
  | close => exact .bind (.lift (quietly_sessionClose host _ _ _ _)) fun _ => .pure _
  | view => exact .bind .get fun _ => .pure _

theorem quiet_sessionAction (budget : Nat) (action : SessionAction ω) :
    QuietRun (sessionAction host budget action) := by
  have forget : ∀ change : Machine ω → Machine ω, (∀ machine, Quiet [] machine (change machine)) →
      QuietRun (MonadStateOf.modifyGet fun s => (PUnit.unit, change s) : Run ω PUnit) := by
    intro change h machine result after hr
    cases hr
    exact ⟨[], h machine⟩
  cases action with
  | «open» name source context prepare =>
    cases source with
    | none =>
      exact .bind (.lift (quietly_openSession host _ _ _)) fun _ =>
        .bind (.lift (quietly_storeSession host _ _)) fun _ => .pure _
    | some source =>
      refine .bind (.lift (quietly_takeSocket source _)) fun handle => ?_
      cases handle with
      | none => exact .pure _
      | some handle =>
        exact .bind (.lift (quietly_openSession host _ _ _)) fun _ =>
          .bind (.lift (quietly_storeSession host _ _)) fun _ => .pure _
  | create name family context prepare =>
    refine .bind (.lift (quietly_create host family)) fun result => ?_
    cases result with
    | error failure => exact .pure _
    | ok socket =>
      exact .bind (.lift (quietly_addSocket socket)) fun _ =>
        .bind (.lift (quietly_openSession host _ _ _)) fun _ =>
          .bind (.lift (quietly_storeSession host _ _)) fun _ => .pure _
  | connectTo name address context prepare =>
    refine .bind (.lift (quietly_create host _)) fun result => ?_
    cases result with
    | error failure => exact .pure _
    | ok socket =>
      refine .bind (.lift (quietly_addSocket socket)) fun _ =>
        .bind (.lift (quietly_openSession host _ _ _)) fun _ =>
          .bind (quiet_connectSession host _ _ _) fun connected => ?_
      obtain ⟨result, opened⟩ := connected
      cases result with
      | error failure => exact .bind (.lift (quietly_dropSession host _)) fun _ => .pure _
      | ok done => exact .bind (.lift (quietly_storeSession host _ _)) fun _ => .pure _
  | drop name =>
    refine .bind .get fun machine => ?_
    split
    · exact .pure _
    · refine .bind (forget _ fun _ => ?_) fun _ => .bind (.lift (quietly_dropSession host _)) fun _ => .pure _
      exact Quiet.of_same rfl rfl rfl rfl rfl rfl
  | request name request =>
    refine .bind .get fun machine => ?_
    split
    · exact .pure _
    · refine .bind (quiet_askSession host _ _ _) fun _ => .bind (forget _ fun _ => ?_) fun _ => .pure _
      exact Quiet.of_same rfl rfl rfl rfl rfl rfl
  | outside name change =>
    refine .bind .get fun machine => ?_
    split
    · exact .pure _
    · refine .bind (forget _ fun _ => ?_) fun _ => .pure _
      exact Quiet.of_same rfl rfl rfl rfl rfl rfl

end NetReactor.Machine

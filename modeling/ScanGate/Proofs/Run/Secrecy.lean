import ScanGate.Proofs.CommandLine.Commands
import ScanGate.Proofs.Run.Confinement
import ScanGate.Proofs.Run.Report

/-! What credentials do. Two runs of a command with different credentials, both of which make a
header, come to the same end with the same files, the same output and the same errors. Request
by request they send the same, but for the authorization header of those to the service. -/
namespace ScanGate

/-- The address that waivers are fetched from. -/
def CommandLine.Command.waivers? : CommandLine.Command → Option String
  | .report o => o.exceptUrl
  | .scan _ => none
  | .reportPdf _ => none

namespace Run

open CommandLine (Command Connection parse withoutCredentials)

variable {c c' : Command} {s : Settings} {client : Client} {k k' : Credentials} {w : World}

/-! ### Once there is a client -/

/-- What a command does with the settings and the client that every command needs. -/
def proceed {m : Type → Type} [Monad m] (s : System m) (colored : Bool) (settings : Settings)
    (client : Client) : Command → ExceptT Failure m ExitCode
  | .scan o => do
    let target ← chooseTarget o
    let id ← Submission.run (client.service s) (IdFile.save s IdFile.path) (tell s colored)
      { target, group := (o.group <|> settings.group).getD "", keep := o.saveId }
    s.output ("Product ID: " ++ id.text ++ "\n")
    return .success
  | .report o => do
    let product ← chooseProduct s o.product
    let response ← Gate.run (client.service s) (Source.load s) (tell s colored)
      (request o settings product)
    deliver s colored o settings response
  | .reportPdf o => do
    let say := tell s colored
    let product ← chooseProduct s o.product
    let path := o.output.getD product.pdfName
    let content ← Download.run (client.service s) say product
    Files.writeBytes s path content
    say (.completion ("✅ PDF report saved: " ++ path))
    return .success

theorem command_eq (colored : Bool) (c : Command) :
    command World.system colored c =
      prepare World.system (tell World.system colored) c.connection >>= fun p =>
        proceed World.system colored p.1 p.2 c := by
  cases c with
  | scan o =>
    refine (scan_eq World.system colored o).trans ?_
    unfold submitScan
    simp only [bind_assoc]
    rfl
  | report o =>
    refine (report_eq World.system colored o).trans ?_
    unfold respond
    simp only [bind_assoc, pure_bind]
    rfl
  | reportPdf o => rfl

/-- What is done with a client has nothing to do with the credentials given. -/
theorem proceed_anonymous (colored : Bool) (c : Command) :
    proceed World.system colored s client c.anonymous =
      proceed World.system colored s client c := by
  cases c <;> rfl

section

variable (hclient : isHeaderValue client.credentials.header = true)
  (hk : isHeaderValue k.header = true)

include hclient hk

theorem agree_proceed (colored : Bool) (s : Settings) (c : Command) :
    Agree (Twin client k c.waivers?) (proceed World.system colored s client c)
      (proceed World.system colored s (client.withCredentials k) c) := by
  cases c with
  | scan o =>
    have htarget : Agree (Twin client k none) (chooseTarget o) (chooseTarget o) := by
      unfold chooseTarget
      cases o.target? with
      | some target => exact agree_pure target
      | none => exact agree_throw .noTarget
    exact htarget.bind fun target => (agree_submission hclient hk _).bind fun id =>
      (unsent_output _).agree.bind fun _ => agree_pure ExitCode.success
  | report o =>
    refine (agree_chooseProduct o.product).bind fun product =>
      (agree_gate hclient hk (request o s product) fun _ => eq_of_choose_eq_address).bind
        fun response => ?_
    unfold deliver
    cases o.output with
    | some path => exact (agree_present _).bind fun _ => agree_pure _
    | none => exact (unsent_output _).agree.bind fun _ => agree_pure _
  | reportPdf o =>
    exact (agree_chooseProduct o.product).bind fun product =>
      (agree_download hclient hk product).bind fun content =>
        (agree_writeBytes content).bind fun _ =>
          (unsent_tell colored _).agree.bind fun _ => agree_pure ExitCode.success

end

/-! ### The client -/

section

variable {c c' : Connection} (heq : c.anonymous = c'.anonymous)
  (hk : c.credentials = .ok k) (hk' : c'.credentials = .ok k')

include heq hk hk'

/-- With other credentials the same client is made, but for those. -/
theorem makeClient_withCredentials (colored : Bool) (s : Settings) :
    makeClient (tell World.system colored) c' s =
      (·.withCredentials k') <$> makeClient (tell World.system colored) c s := by
  obtain ⟨hhost, hinsecure, -⟩ : c.host = c'.host ∧ c.insecure = c'.insecure ∧
      c.config = c'.config := by
    simpa [Connection.anonymous] using heq
  unfold Connection.credentials at hk hk'
  unfold makeClient
  rw [← hhost, ← hinsecure, hk, hk']
  cases c.host <|> s.host with
  | none => rfl
  | some host =>
    simp only
    cases c.insecure || s.insecure.getD false <;> rfl

theorem prepare_withCredentials (colored : Bool) :
    prepare World.system (tell World.system colored) c' =
      prepare World.system (tell World.system colored) c >>= fun p =>
        pure (p.1, p.2.withCredentials k') := by
  have hconfig : c.anonymous.config = c'.anonymous.config := congrArg _ heq
  change c.config = c'.config at hconfig
  unfold prepare
  rw [← hconfig, bind_assoc]
  refine bind_congr fun s => ?_
  rw [makeClient_withCredentials heq hk hk' colored s]
  simp only [bind_assoc, pure_bind, bind_map_left]

end

theorem credentials_of_client {c : Connection} (hclient : Client.Of c s client)
    (hk : c.credentials = .ok k) : client.credentials = k := by
  obtain ⟨-, hcredentials⟩ := hclient
  exact Except.ok.inj (hcredentials.symm.trans hk)

/-! ### Runs -/

/-- A request of a run and its twin in a run with the credentials `k'`, for the client that the
run has. -/
def Twinned (c : Command) (k' : Credentials) (w : World) (q q' : Request) : Prop :=
  ∃ s client, s.Of w.tree c.connection.config ∧ Client.Of c.connection s client ∧
    Twin client k' c.waivers? q q'

section

variable (heq : c.anonymous = c'.anonymous) (hk : c.connection.credentials = .ok k)
  (hk' : c'.connection.credentials = .ok k') (hheader : isHeaderValue k.header = true)
  (hheader' : isHeaderValue k'.header = true)

include heq hk hk' hheader hheader'

/-- The commands come to the same end. -/
theorem command_twins (colored : Bool) (w : World) :
    ((command World.system colored c).run.run w).1 =
        ((command World.system colored c').run.run w).1 ∧
      Twins (Twinned c k' w) w.requests ((command World.system colored c).run.run w).2
        ((command World.system colored c').run.run w).2 := by
  have hconnection : c.connection.anonymous = c'.connection.anonymous := by
    rw [← Command.connection_anonymous, heq, Command.connection_anonymous]
  have hproceed (s : Settings) (client : Client) :
      proceed World.system colored s client c' = proceed World.system colored s client c := by
    rw [← proceed_anonymous, ← heq, proceed_anonymous]
  -- nothing is sent before there is a client, so all requests are those of that client
  have hprepares : Agree (fun _ _ => False)
      (prepare World.system (tell World.system colored) c.connection)
      (prepare World.system (tell World.system colored) c.connection) :=
    agree_prepare c.connection
  have hsilent := hprepares.requests_eq w
  rw [command_eq, command_eq, prepare_withCredentials hconnection hk hk' colored, bind_assoc]
  simp only [pure_bind, hproceed]
  obtain ⟨failure, w₁, hprepare, -⟩ | ⟨⟨s, client⟩, w₁, hprepare, ⟨⟨hs, hclient⟩, -⟩, -⟩ :=
    (looks_prepare colored c.connection).run_cases w
  · rw [hprepare] at hsilent
    rw [run_bind_error hprepare, run_bind_error hprepare]
    exact ⟨rfl, hsilent ▸ Twins.refl _ w₁⟩
  · rw [hprepare] at hsilent
    have hclientHeader : isHeaderValue client.credentials.header = true := by
      rw [credentials_of_client hclient hk]
      exact hheader
    simp only [ExceptT.run_bind, StateT.run_bind, hprepare]
    obtain ⟨hend, htwins⟩ := agree_proceed hclientHeader hheader' colored s c _ _ _
      (Twins.refl (Twin client k' c.waivers?) w₁)
    refine ⟨hend, hsilent ▸ htwins.mono fun q q' h => ?_⟩
    exact ⟨s, client, hs, hclient, h⟩

/-- A failure is told in the same words, so the runs come to the same end as the commands. -/
theorem run_twins (w : World) :
    ((run World.system c).run w).1 = ((run World.system c').run w).1 ∧
      Twins (Twinned c k' w) w.requests ((run World.system c).run w).2
        ((run World.system c').run w).2 := by
  obtain ⟨hend, htwins⟩ :=
    command_twins heq hk hk' hheader hheader' (colored w.surroundings) w
  rw [run_command, run_command]
  rcases hrun : (command World.system (colored w.surroundings) c).run.run w with ⟨r, w₁⟩
  rcases hrun' : (command World.system (colored w.surroundings) c').run.run w with ⟨r', w₁'⟩
  rw [hrun, hrun'] at hend htwins
  obtain rfl : r = r' := hend
  cases r with
  | ok code => exact ⟨rfl, htwins⟩
  | error failure => exact ⟨rfl, ((unsent_error (explain failure)).agree _ _ _ htwins).2⟩

end

def tokenArguments : List String :=
  ["report", "--host", "h", "--token", "t", "--scan-id", "1", "--except-url", "https://e/list"]

def passwordArguments : List String :=
  ["report", "--username=u", "--host", "h", "--scan-id", "1", "--except-url", "https://e/list",
    "--password", "p"]

def secretsCommand (connection : Connection) : Command :=
  .report { connection, product := { id := some ⟨"1"⟩ }, exceptUrl := some "https://e/list" }

def tokenCommand : Command := secretsCommand { token := some "t", host := some "h" }

def passwordCommand : Command :=
  secretsCommand { username := some "u", password := some "p", host := some "h" }

/-- No waivers, and a report that passes. -/
def secretsWorld : World where
  replies := [.answered 200 { bytes := "\x7b\"exceptions\": []\x7d".toUTF8 } true,
    .answered 200 { bytes := ("\x7b\"results\": \x7b\"status\": \"R\", \"summary\": " ++
      "\x7b\"verdict\": \x7b\"short\": \"Pass\"\x7d\x7d\x7d\x7d").toUTF8 } true]

theorem run_secretsWorld : ((run World.system tokenCommand).run secretsWorld).1 = .success := by
  decide +kernel

end Run

end ScanGate

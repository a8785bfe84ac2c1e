import ScanGate.Proofs.Run.Ending
import ScanGate.Proofs.Run.Sending

/-! What leaves every file as it is. A command reads, sends and tells before it writes, and none of
this changes the tree, whether it comes to an end or fails on the way: each step is in step with
itself among the worlds with one tree. -/
namespace ScanGate.Run

open CommandLine (PdfOptions ReportOptions)

/-- The same world on both sides, with this tree. -/
def WithTree (t : Tree) (w w' : World) : Prop := w' = w ∧ w.tree = t

variable {α : Type} {t : Tree}

theorem tree_eq_of_inStep {x : ExceptT Failure (StateM World) α}
    (h : ∀ t, InStep (WithTree t) x x) (w : World) : (x.run.run w).2.tree = w.tree :=
  (h w.tree w w ⟨rfl, rfl⟩).2.2

theorem inStep_of_tree_eq {x : StateM World α} (hx : ∀ w, (x.run w).2.tree = w.tree) :
    InStep (WithTree t) (liftM x) (liftM x) := by
  rintro _ w ⟨rfl, rfl⟩
  exact ⟨rfl, rfl, hx w⟩

/-! ### Systems -/

theorem reflects_tree (t : Tree) : Reflects (WithTree t) World.system World.system where
  lookup _ := inStep_of_tree_eq fun _ => rfl
  inspect _ := inStep_of_tree_eq fun _ => rfl
  exists? _ := inStep_of_tree_eq fun _ => rfl
  read _ := inStep_of_tree_eq fun _ => rfl
  output _ := inStep_of_tree_eq fun _ => rfl
  error _ := inStep_of_tree_eq fun _ => rfl

theorem tree_send (q : Request) (w : World) : ((World.send q).run w).2.tree = w.tree := by
  cases ho : w.surroundings.opens q with
  | false => rw [send_silent ho]
  | true =>
    cases hr : w.replies with
    | nil => rw [send_unanswered ho hr]
    | cons reply rest => rw [send_answered ho hr]

theorem sendsInStep_tree (t : Tree) (c : Client) :
    SendsInStep (WithTree t) World.system World.system c c.credentials where
  header := rfl
  send _ _ _ _ := inStep_of_tree_eq (tree_send _)

theorem fetchesInStep_tree (t : Tree) (source : Source) :
    FetchesInStep (WithTree t) World.system World.system source :=
  fun _ _ _ _ => inStep_of_tree_eq (tree_send _)

/-! ### Before anything is written -/

/-- The part of a run for a PDF before it is written. -/
def receive {m : Type → Type} [Monad m] (s : System m) (colored : Bool) (o : PdfOptions) :
    ExceptT Failure m (ProductId × ByteArray) := do
  let (_, client) ← prepare s (tell s colored) o.connection
  let product ← chooseProduct s o.product
  let content ← Download.run (client.service s) (tell s colored) product
  return (product, content)

theorem tree_respond (colored : Bool) (o : ReportOptions) (w : World) :
    ((respond World.system colored o).run.run w).2.tree = w.tree := by
  refine tree_eq_of_inStep (fun t => ?_) w
  have h := reflects_tree t
  exact (inStep_prepare h o.connection).bind fun p =>
    (inStep_chooseProduct h o.product).bind fun product =>
      (inStep_gate h (sendsInStep_tree t p.2) (request o p.1 product)
        (fetchesInStep_tree t _)).bind fun response => inStep_pure (p.1, response)

theorem tree_receive (colored : Bool) (o : PdfOptions) (w : World) :
    ((receive World.system colored o).run.run w).2.tree = w.tree := by
  refine tree_eq_of_inStep (fun t => ?_) w
  have h := reflects_tree t
  exact (inStep_prepare h o.connection).bind fun p =>
    (inStep_chooseProduct h o.product).bind fun product =>
      (inStep_download h (sendsInStep_tree t p.2) product).bind fun content =>
        inStep_pure (product, content)

end ScanGate.Run

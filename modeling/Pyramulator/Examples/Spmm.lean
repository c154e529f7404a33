import Mathlib.Algebra.Notation.Defs
import Pyramulator.Dram.Board

namespace Pyramulator

/-! The accelerator of `spmm_hbm.py`, which multiplies a sparse matrix by a dense one. The
entries are numbers of any type: as of the floats, no law of their sum and product is
assumed. -/

structure Csr (R : Type) (inner : Nat) where
  rowsPtr : List Nat
  cols : List (Fin inner)
  vals : List R
  some_row : rowsPtr ≠ []
  within : ∀ ptr ∈ rowsPtr, ptr ≤ cols.length
  paired : vals.length = cols.length

namespace Csr

variable {R : Type} {inner : Nat}

/-- `len(rows_ptr) - 1`. -/
def rows (matrix : Csr R inner) : Nat := matrix.rowsPtr.length - 1

/-- `cols[idx]` and `vals[idx]` for the indices of a row. -/
def row (matrix : Csr R inner) (i : Nat) : List (Fin inner × R) :=
  let first := matrix.rowsPtr.getD i 0
  let last := matrix.rowsPtr.getD (i + 1) 0
  ((matrix.cols.zip matrix.vals).drop first).take (last - first)

end Csr

/-- What `run` is called with. -/
structure SpmmTask (R : Type) where
  inner : Nat
  k : Nat
  sparse : Csr R inner
  dense : Fin inner → Fin k → R

/-- A cacheline to read: a block of row `j` of the dense matrix that starts in column
`t`, to be scaled by `v` and added to row `i`. -/
structure SpmmItem (R : Type) where
  i : Nat
  j : Nat
  t : Nat
  v : R
  deriving DecidableEq

/-- The `lambda` that is passed to the DRAM. Python makes a new one for each read. -/
structure SpmmCallback (R : Type) where
  object : Nat
  item : SpmmItem R
  deriving DecidableEq

/-- `SpMMAccelerator`. The number of lambdas made so far is not there in the source. -/
structure Spmm (R : Type) extends Component where
  pending : List (SpmmItem R)
  inflight : Int
  sent : Int
  acc : Nat → Nat → R
  image : List R
  k : Nat
  lambdas : Nat

namespace Spmm

variable {R : Type}

/-- `FLOATS_PER_CACHELINE`. -/
def floatsPerCacheline : Nat := 16

/-- `MAX_INFLIGHT`. -/
def maxInflight : Int := 16

/-- `B_BASE`. -/
def bBase : Int := 0x100000

/-- `_addr_of`. -/
def addrOf (k j t : Nat) : Int := bBase + ((j * k + t : Nat) : Int) * 4

/-- `range(0, k, FLOATS_PER_CACHELINE)`. -/
def blocks (k : Nat) : List Nat :=
  (List.range ((k + (floatsPerCacheline - 1)) / floatsPerCacheline)).map
    (floatsPerCacheline * ·)

def entryItems (k i : Nat) (j : Nat) (v : R) : List (SpmmItem R) :=
  (blocks k).map fun t => ⟨i, j, t, v⟩

/-- What the loops of `run` append. -/
def items (task : SpmmTask R) : List (SpmmItem R) :=
  (List.range task.sparse.rows).flatMap fun i =>
    (task.sparse.row i).flatMap fun (j, v) => entryItems task.k i j v

/-- `B.flatten()`. -/
def flatten {inner k : Nat} (dense : Fin inner → Fin k → R) : List R :=
  List.ofFn fun index : Fin (inner * k) => dense index.divNat index.modNat

/-- The columns of the slice `t : t + FLOATS_PER_CACHELINE`. -/
def width (k t : Nat) : Nat := min floatsPerCacheline (k - t)

/-- A block that is added in place to a slice: it has as many entries, or one. -/
def broadcast (blk : List R) (width : Nat) : Except PyError (List R) :=
  if blk.length = width then .ok blk
  else if blk.length = 1 then .ok ((List.replicate width blk).flatten)
  else if width = 1 then
    .error (.valueError
      (s!"non-broadcastable output operand with shape (1,) doesn't match " ++
      s!"the broadcast shape ({blk.length},)"))
  else
    .error (.valueError (s!"operands could not be broadcast together with shapes " ++
      s!"({width},) ({blk.length},) ({width},) "))

section

variable [Zero R] [Add R] [Mul R]

theorem hostPeriodPs_pos : (0 : Int) < 1000 := by decide

/-- `SpMMAccelerator.__init__`. -/
def create : Spmm R where
  clk := ⟨1000, hostPeriodPs_pos⟩
  name := "spmm"
  pending := []
  inflight := 0
  sent := 0
  acc _ _ := 0
  image := []
  k := 0
  lambdas := 0

/-- `run` up to the first `_issue`. -/
def begin (task : SpmmTask R) (spmm : Spmm R) : Spmm R :=
  { spmm with
    k := task.k
    image := flatten task.dense
    acc := fun _ _ => 0
    pending := spmm.pending ++ items task }

/-- `self._acc[i, t : t + FLOATS_PER_CACHELINE] += v * blk`. -/
def accumulate (item : SpmmItem R) (blk : List R) (spmm : Spmm R) : Spmm R :=
  { spmm with
    acc := fun i c =>
      if i = item.i ∧ item.t ≤ c ∧ c < item.t + blk.length then
        spmm.acc i c + item.v * blk.getD (c - item.t) 0
      else spmm.acc i c }

end

end Spmm

abbrev SpmmBoard {R : Type} (setup : DramSetup (SpmmCallback R)) :=
  Board Empty setup (Spmm R)

namespace SpmmBoard

open Board (onDram assign)

variable {R : Type} [DecidableEq R] [Zero R] [Add R] [Mul R]
  {setup : DramSetup (SpmmCallback R)} {α : Type}

abbrev Call {R : Type} (setup : DramSetup (SpmmCallback R)) (α : Type) :=
  Board.Call Empty setup (Spmm R) α

/-- `self.dram.read(addr, callback=lambda …)`. -/
def read (item : SpmmItem R) : Call setup Bool := do
  let board ← .get
  assign fun spmm => { spmm with lambdas := spmm.lambdas + 1 }
  let value ← onDram (Dram.submit (.dram ())
    (.read (Spmm.addrOf board.component.k item.j item.t)
      (some ⟨board.component.lambdas, item⟩) 0))
  return Dram.anyAccepted value

/-- The loop of `_issue`, over the pending items. -/
def issueLoop : List (SpmmItem R) → Call setup Unit
  | [] => pure ()
  | item :: rest => do
      let board ← .get
      if board.component.inflight < Spmm.maxInflight then
        let accepted ← read item
        if accepted then
          assign fun spmm => { spmm with
            pending := rest
            inflight := spmm.inflight + 1
            sent := spmm.sent + 1 }
          issueLoop rest
        else pure ()
      else pure ()

/-- `_issue`. -/
def issue : Call setup Unit := do
  let board ← .get
  issueLoop board.component.pending

/-- `run` up to `run_until_idle`. -/
def run (task : SpmmTask R) : Call setup Unit := do
  assign (Spmm.begin task)
  issue

def block (info : RequestInfo) (spmm : Spmm R) : List R :=
  let off := (info.addr - Spmm.bBase) / 4
  (spmm.image.drop off.toNat).take Spmm.floatsPerCacheline

/-- `_on_complete`. -/
def onComplete (item : SpmmItem R) (info : RequestInfo) : Call setup Unit := do
  assign fun spmm => { spmm with inflight := spmm.inflight - 1 }
  let board ← .get
  let blk := block info board.component
  match Spmm.broadcast blk (Spmm.width board.component.k item.t) with
  | .error error => .raise error
  | .ok blk =>
      assign (Spmm.accumulate item blk)
      issue

end SpmmBoard

def Spmm.firmware {R : Type} [DecidableEq R] [Zero R] [Add R] [Mul R]
    (setup : DramSetup (SpmmCallback R)) :
    Firmware Empty setup (Spmm R) (SpmmTask R) where
  initial := .create
  call := SpmmBoard.run
  completion callback info := SpmmBoard.onComplete callback.item info
  host tag := tag.elim

end Pyramulator

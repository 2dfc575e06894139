import KubevirtMetrics.Bpf.Tracer

namespace KubevirtMetrics.Bpf

open Data

/-! `block_latency.c`. -/

/-- The fields that the handlers read of the records of `block_rq_issue` and
`block_rq_complete`. -/
structure BlockRq where
  dev : UInt32
  sector : UInt64
  rwbs : List Char
  deriving DecidableEq

structure ReqKey where
  dev : UInt32
  sector : UInt64
  deriving DecidableEq

def classifyOp (rwbs : List Char) : UInt8 :=
  match rwbs with
  | 'R' :: _ => 0
  | 'W' :: _ => 1
  | 'D' :: _ => 2
  | 'F' :: _ => 3
  | _ => 0xff

def BlockRq.reqKey (ctx : BlockRq) : ReqKey := ⟨ctx.dev, ctx.sector⟩

def BlockRq.histKey (ctx : BlockRq) : Option HistKey :=
  if classifyOp ctx.rwbs = 0xff then none
  else some ⟨ctx.dev, classifyOp ctx.rwbs⟩

def blockRqIssue (ctx : BlockRq) (now : UInt64) (tracer : Tracer ReqKey) :
    Tracer ReqKey :=
  if classifyOp ctx.rwbs = 0xff then tracer
  else { tracer with starts := tracer.starts.insert ctx.reqKey now }

/-- The classification stands between the test for a negative `delta` and the
histogram update, which is where `recordLatency` looks at the histogram key. -/
def blockRqComplete (ctx : BlockRq) (now : UInt64) (tracer : Tracer ReqKey) :
    Tracer ReqKey :=
  recordLatency tracer ctx.reqKey ctx.histKey now

/-- A request of the block layer.  Two requests can agree in everything that
the tracepoints show of them. -/
structure BlockRequest where
  id : Nat
  ctx : BlockRq
  deriving DecidableEq

def blockHandlers : Handlers BlockRequest ReqKey where
  key request := request.ctx.reqKey
  histKey request := request.ctx.histKey
  issue request := blockRqIssue request.ctx
  complete request := blockRqComplete request.ctx
  issue_eq request now tracer := by
    unfold blockRqIssue BlockRq.histKey
    split <;> rfl
  complete_eq _ _ _ := rfl

end KubevirtMetrics.Bpf

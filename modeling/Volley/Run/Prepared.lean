import Volley.Message
import Volley.RequestFile.Basic
import Volley.Template

/-!
# Prepared requests

A case is prepared by filling in its method, its address, the values of its headers and its body;
the names of headers are sent as they are written. Built-in functions may give another value at
every placeholder, so each placeholder has a site, at which the functions are asked.
-/

namespace Volley

/-- The parts of a case that have placeholders. -/
inductive CasePart where
  /-- The method. -/
  | method
  /-- The address. -/
  | url
  /-- The value of a header, by its place. -/
  | header (place : Nat)
  /-- The body. -/
  | body
  deriving DecidableEq, Repr

/-- Where a placeholder stands in a case. -/
structure Site where
  /-- The part of the case. -/
  part : CasePart
  /-- The place among the pieces of that part. -/
  piece : Nat
  deriving DecidableEq, Repr

namespace Case

/-- A case made ready to be sent, with a resolver for every site. -/
def prepareAt (resolverAt : Site → Resolver) (c : Case) : Request where
  method := substituteAt (fun piece => resolverAt ⟨.method, piece⟩) c.method
  url := substituteAt (fun piece => resolverAt ⟨.url, piece⟩) c.url
  headers := c.headers.zipIdx.map fun (header, place) =>
    (header.1, substituteAt (fun piece => resolverAt ⟨.header place, piece⟩) header.2)
  body := substituteAt (fun piece => resolverAt ⟨.body, piece⟩) c.body

/-- A case made ready to be sent, with one resolver. -/
def prepare (resolver : Resolver) (c : Case) : Request where
  method := substitute resolver c.method
  url := substitute resolver c.url
  headers := c.headers.map fun header => (header.1, substitute resolver header.2)
  body := substitute resolver c.body

/-- With one resolver at every site the two preparations agree. -/
theorem prepareAt_const (resolver : Resolver) (c : Case) :
    c.prepareAt (fun _ => resolver) = c.prepare resolver := by
  simp only [prepareAt, prepare, substituteAt_const, Request.mk.injEq, true_and, and_true]
  have inner := List.map_map (f := Prod.fst (α := Header) (β := Nat))
    (g := fun header : Header => (header.1, substitute resolver header.2)) (l := c.headers.zipIdx)
  rw [List.zipIdx_map_fst] at inner
  exact inner.symm

end Case

end Volley

import EntityCatalog.Error
import EntityCatalog.Query

namespace EntityCatalog

namespace Listing

def selectMembers (select : List String) (d : Document) : Document :=
  select.foldl (fun out k => match d.get? k with
    | some v => Document.set out k v
    | none => out) []

def project (select : List String) (record : Document) : Document :=
  if select.isEmpty then record
  else
    let data := match record.get? "data" with
      | some (.object d) => d
      | _ => []
    record.set "data" (.object (selectMembers select data))

inductive PageFault where
  | noRows
  | tooMany
deriving DecidableEq, Repr

-- The number of pages: the quotient as the nearest binary64 number, rounded up.
def pageCount (total limit : Int) : Except PageFault Int :=
  if limit = 0 then .error .noRows
  else
    match (Binary64.ofRatio ((total < 0) != (limit < 0)) total.natAbs limit.natAbs).ceil? with
    | some n => .ok n
    | none => .error .tooMany

def pageInfo (total : Int) (page : Option Page) : Except PageFault Document :=
  match page with
  | none => .ok [("total", .int total), ("hasMore", .bool false)]
  | some p => do
    let pages ← pageCount total p.limit
    .ok
      [("total", .int total), ("page", .int p.number), ("limit", .int p.limit),
       ("totalPages", .int pages), ("hasNextPage", .bool (p.number < pages)),
       ("hasPrevPage", .bool (0 < pages && 1 < p.number))]

end Listing

end EntityCatalog

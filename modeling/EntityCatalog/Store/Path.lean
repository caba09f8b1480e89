namespace EntityCatalog

def memberPath (name : String) : String := "$.\"" ++ name ++ "\""

-- A path ends at a quote, and so do texts at a NUL character.
def isPath (path : String) : Bool := path.toList.all fun c => c != '"' && c.toNat ≠ 0

end EntityCatalog

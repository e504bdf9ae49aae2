import ServiceDirectory.Metadata.UrlTable

/-!
# The metadata store of an application

What an application exports and what it subscribes to, as two independent tables.
-/

namespace ServiceDirectory

/-- The interface that stands for every interface. -/
def anyInterface : String := "*"

def metadataVersion : String := "1.0.0"

/-- The interface under which metadata itself is served. -/
def metadataInterface : String := "lodestar.metadata.MetadataService"

/-- The recorded URLs of one application. -/
structure MetadataStore where
  name : String
  exported : UrlTable
  subscribed : UrlTable
deriving DecidableEq, Repr

namespace MetadataStore

/-- The store of an application that has recorded nothing. -/
def ofName (name : String) : MetadataStore := ⟨name, .empty, .empty⟩

instance : Inhabited MetadataStore := ⟨ofName ""⟩

/-- The strings exported under the key of interface, group and version, or all of them
for the wildcard interface. -/
def exportedUrls (m : MetadataStore) (interface : String) (group version : Option String) :
    List String :=
  if interface = anyInterface then m.exported.all
  else m.exported.get (serviceKey interface group version)

def allExported (m : MetadataStore) : List String := m.exportedUrls anyInterface none none

/-- The exported strings whose protocol is the one asked for; no or an empty protocol
asks for all. -/
def exportedByProtocol (m : MetadataStore) (interface : String)
    (group version protocol : Option String) : List String :=
  let urls := m.exportedUrls interface group version
  match protocol.filter (· ≠ "") with
  | some protocol =>
    urls.filter fun url => (protocol.toList ++ [':', '/', '/']).isPrefixOf url.toList
  | none => urls

def subscribedUrls (m : MetadataStore) : List String := m.subscribed.all

end MetadataStore

end ServiceDirectory

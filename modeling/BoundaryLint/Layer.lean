/-!
Architectural layers. Dependencies point inward: interface, infrastructure, application, domain.
-/

namespace BoundaryLint

inductive Layer where
  | domain
  | application
  | infrastructure
  | interface
  /-- No pattern matches. -/
  | unknown
deriving DecidableEq, Repr

namespace Layer

def all : List Layer := [.domain, .application, .infrastructure, .interface, .unknown]

def name : Layer → String
  | .domain => "domain"
  | .application => "application"
  | .infrastructure => "infrastructure"
  | .interface => "interface"
  | .unknown => "unknown"

def title : Layer → String
  | .domain => "Domain"
  | .application => "Application"
  | .infrastructure => "Infrastructure"
  | .interface => "Interface"
  | .unknown => "Unknown"

def ofName? (text : String) : Option Layer := all.find? (·.name = text)

def isConstrained : Layer → Bool
  | .domain | .application | .infrastructure => true
  | .interface | .unknown => false

end Layer

end BoundaryLint

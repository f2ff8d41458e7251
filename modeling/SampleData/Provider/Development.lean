import SampleData.Provider.Stocked

/-! # Software development

Licenses, versions, databases, languages, frameworks and systems.
-/
namespace SampleData.Development

def licenses : Table String :=
  ⟨"Apache License, 2.0 (Apache-2.0)", ["The BSD 3-Clause License", "The BSD 2-Clause License",
   "GNU General Public License (GPL)", "GNU Library or \"Lesser\" General Public License (LGPL)",
   "MIT License (MIT)", "Mozilla Public License 2.0 (MPL-2.0)",
   "Common Development and Distribution License (CDDL-1.0)", "Eclipse Public License (EPL-1.0)"]⟩

def sqlDatabases : Table String :=
  ⟨"MariaDB", ["Microsoft SQL Server", "MySQL", "Oracle", "PostgreSQL", "SQLite"]⟩

def nosqlDatabases : Table String :=
  ⟨"Cassandra", ["CouchDB", "MongoDB", "Neo4j", "Redis", "RethinkDB", "Riak"]⟩

def otherTools : Table String :=
  ⟨"Docker", ["Ansible", "Elasticsearch", "Git", "Jenkins", "Kubernetes", "Nginx", "RabbitMQ",
   "Vagrant", "Webpack"]⟩

def languages : Table String :=
  ⟨"C", ["C#", "C++", "Clojure", "Elixir", "Erlang", "Go", "Haskell", "Java", "JavaScript",
   "Kotlin", "OCaml", "Python", "Ruby", "Rust", "Scala", "Swift"]⟩

def backends : Table String :=
  ⟨"C#/ASP.NET", ["Elixir/Phoenix", "Go/Gin", "Java/Spring", "JS/Node.js", "Python/Django",
   "Python/Flask", "Ruby/Rails", "Rust/Actix"]⟩

def frontends : Table String :=
  ⟨"Elm", ["JS/Angular", "JS/Ember", "JS/React", "JS/Vue", "TypeScript/Angular", "ClojureScript"]⟩

def systems : Table String :=
  ⟨"Arch", ["CentOS", "Debian", "Fedora", "FreeBSD", "Gentoo", "Kali", "Linux Mint", "macOS",
   "OpenBSD", "Ubuntu", "Windows 10"]⟩

variable {σ : Type} [WordSource σ]

def version : StateM σ String := do
  return ".".intercalate ((← Random.times 3 (Random.unsigned 0 11)).map fun n => toString n.toNat)

def question : StateM σ String := do
  let id ← Random.unsigned 1000000 9999999
  return "http://stackoverflow.com/questions/" ++ toString id.toNat

inductive Call where
  | softwareLicense
  | version
  | database (nosql : Bool)
  | other
  | programmingLanguage
  | backend
  | frontend
  | os
  | question

def perform : Call → Gen σ Json
  | .softwareLicense => (Gen.draw (Random.choose licenses)).text
  | .version => (Gen.draw version).text
  | .database nosql =>
    (Gen.draw (Random.choose (if nosql then nosqlDatabases else sqlDatabases))).text
  | .other => (Gen.draw (Random.choose otherTools)).text
  | .programmingLanguage => (Gen.draw (Random.choose languages)).text
  | .backend => (Gen.draw (Random.choose backends)).text
  | .frontend => (Gen.draw (Random.choose frontends)).text
  | .os => (Gen.draw (Random.choose systems)).text
  | .question => (Gen.draw question).text

def fields : List (String × Call) :=
  [("backend", .backend),
   ("database", .database false),
   ("frontend", .frontend),
   ("os", .os),
   ("other", .other),
   ("programming_language", .programmingLanguage),
   ("software_license", .softwareLicense),
   ("stackoverflow_question", .question),
   ("version", .version)]

end SampleData.Development

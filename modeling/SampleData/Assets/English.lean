import SampleData.Json.Value

/-! # English data

The shipped bundles of the locale `en`, laid out in the order in which their texts show the fields.
-/
namespace SampleData.Assets.English

def address : Json := .object
  [("street", .object
    [("name", .ofStrings
      ["Acorn", "Adams", "Bayview", "Birch", "Cedar", "Cherry", "Elm", "Hillcrest", "Lakeview",
       "Maple", "Oak", "Park", "Pine", "Ridge", "Sunset", "Walnut"]),
     ("suffix", .ofStrings
      ["Alley", "Avenue", "Boulevard", "Court", "Drive", "Lane", "Parkway", "Place", "Road",
       "Street", "Terrace", "Way"])]),
   ("address_fmt", .str "\x7bst_num\x7d \x7bst_name\x7d \x7bst_sfx\x7d"),
   ("state", .object
    [("name", .ofStrings
      ["Alabama", "Alaska", "Arizona", "California", "Colorado", "Florida", "Georgia", "Illinois",
       "Maine", "Nevada", "Ohio", "Oregon", "Texas", "Utah", "Vermont", "Washington"]),
     ("abbr", .ofStrings
      ["AL", "AK", "AZ", "CA", "CO", "FL", "GA", "IL", "ME", "NV", "OH", "OR", "TX", "UT", "VT",
       "WA"])]),
   ("postal_code_fmt", .str "#####"),
   ("country", .object
    [("name", .ofStrings
      ["Argentina", "Australia", "Brazil", "Canada", "France", "Germany", "India", "Italy",
       "Japan", "Mexico", "Norway", "Russia", "Spain", "Sweden", "United Kingdom", "United States"])]),
   ("city", .ofStrings
    ["Austin", "Boston", "Chicago", "Denver", "Houston", "Los Angeles", "Miami", "New York",
     "Phoenix", "Portland", "San Diego", "Seattle"])]

def business : Json := .object
  [("company", .object
    [("type", .object
      [("title", .ofStrings
        ["Corporation", "Incorporated", "Limited Liability Company", "Partnership"]),
       ("abbr", .ofStrings
        ["Corp.", "Inc.", "LLC", "LP"])]),
     ("name", .ofStrings
      ["Acme", "Blue Harbor", "Cobalt Systems", "Gamma Systems", "Northwind", "Pinecrest Labs",
       "Quantum Works", "Redwood Partners", "Silverline", "Vertex"])])]

def datetime : Json := .object
  [("day", .object
    [("name", .ofStrings
      ["Monday", "Tuesday", "Wednesday", "Thursday", "Friday", "Saturday", "Sunday"]),
     ("abbr", .ofStrings
      ["Mon", "Tue", "Wed", "Thu", "Fri", "Sat", "Sun"])]),
   ("month", .object
    [("name", .ofStrings
      ["January", "February", "March", "April", "May", "June", "July", "August", "September",
       "October", "November", "December"]),
     ("abbr", .ofStrings
      ["Jan", "Feb", "Mar", "Apr", "May", "Jun", "Jul", "Aug", "Sep", "Oct", "Nov", "Dec"])]),
   ("periodicity", .ofStrings
    ["Never", "Once", "Daily", "Weekly", "Monthly", "Yearly"]),
   ("formats", .object
    [("date", .str "%m/%d/%Y"),
     ("time", .str "%H:%M:%S")])]

def food : Json := .object
  [("vegetables", .ofStrings
    ["Artichoke", "Broccoli", "Carrot", "Celery", "Kale", "Leek", "Onion", "Pepper", "Spinach",
     "Zucchini"]),
   ("fruits", .ofStrings
    ["Apple", "Banana", "Cherry", "Grape", "Lemon", "Mango", "Orange", "Peach", "Pear", "Plum"]),
   ("dishes", .ofStrings
    ["Caesar Salad", "Clam Chowder", "Fish and Chips", "Meatloaf", "Pancakes", "Pot Roast"]),
   ("spices", .ofStrings
    ["Basil", "Cinnamon", "Cumin", "Nutmeg", "Oregano", "Paprika", "Thyme"]),
   ("drinks", .ofStrings
    ["Coffee", "Lemonade", "Milkshake", "Root Beer", "Tea", "Water"])]

def personal : Json := .object
  [("names", .object
    [("female", .ofStrings
      ["Abby", "Alice", "Claire", "Emma", "Grace", "Hannah", "Julia", "Laura", "Mia", "Olivia",
       "Rachel", "Sophia"]),
     ("male", .ofStrings
      ["Adam", "Brian", "Carl", "Daniel", "Ethan", "Frank", "George", "Henry", "Jack", "Liam",
       "Noah", "Oscar"])]),
   ("surnames", .ofStrings
    ["Anderson", "Baker", "Carter", "Davis", "Evans", "Foster", "Garcia", "Harris", "Jackson",
     "Miller", "Smith", "Walker"]),
   ("title", .object
    [("female", .object
      [("typical", .ofStrings
        ["Mrs.", "Ms.", "Miss"]),
       ("academic", .ofStrings
        ["PhD", "Dr.", "Prof."])]),
     ("male", .object
      [("typical", .ofStrings
        ["Mr.", "Sir"]),
       ("academic", .ofStrings
        ["PhD", "Dr.", "Prof."])])]),
   ("gender", .ofStrings
    ["Female", "Male"]),
   ("occupation", .ofStrings
    ["Accountant", "Architect", "Baker", "Chemist", "Designer", "Electrician", "Engineer",
     "Journalist", "Librarian", "Nurse", "Pilot", "Teacher"]),
   ("nationality", .object
    [("female", .ofStrings
      ["American", "British", "Canadian", "French", "German", "Irish", "Italian", "Russian"]),
     ("male", .ofStrings
      ["American", "British", "Canadian", "French", "German", "Irish", "Italian", "Russian"])]),
   ("university", .ofStrings
    ["Harvard University", "Massachusetts Institute of Technology", "Princeton University",
     "Stanford University", "University of Chicago", "Yale University"]),
   ("academic_degree", .ofStrings
    ["Bachelor", "Master", "PhD"]),
   ("language", .ofStrings
    ["Chinese", "English", "French", "German", "Italian", "Japanese", "Russian", "Spanish"]),
   ("telephone_fmt", .ofStrings
    ["+1-(###)-###-####", "(###) ###-####", "###-###-####"]),
   ("sexuality", .ofStrings
    ["Asexuality", "Bisexuality", "Heterosexuality", "Homosexuality", "Pansexuality"]),
   ("political_views", .ofStrings
    ["Anarchist", "Communist", "Conservative", "Liberal", "Libertarian", "Moderate", "Socialist"]),
   ("worldview", .ofStrings
    ["Agnosticism", "Atheism", "Buddhism", "Christianity", "Deism", "Hinduism", "Islam", "Judaism",
     "Pantheism"]),
   ("views_on", .ofStrings
    ["Compromisable", "Negative", "Neutral", "Positive", "Strongly negative"]),
   ("favorite_movie", .ofStrings
    ["Alien", "Blade Runner", "Casablanca", "Interstellar", "Jaws", "Pulp Fiction",
     "The Godfather", "The Matrix", "Vertigo"])]

def science : Json := .object
  [("article", .ofStrings
    ["Atomic physics", "Cell biology", "Graph theory", "Number theory", "Plate tectonics",
     "Quantum chemistry"]),
   ("scientist", .ofStrings
    ["Albert Einstein", "Alan Turing", "Charles Darwin", "Isaac Newton", "Marie Curie",
     "Niels Bohr", "Rosalind Franklin"]),
   ("element", .ofStrings
    ["Hydrogen|H|1", "Helium|He|2", "Lithium|Li|3", "Carbon|C|6", "Nitrogen|N|7", "Oxygen|O|8",
     "Sodium|Na|11", "Iron|Fe|26", "Copper|Cu|29", "Silver|Ag|47", "Gold|Au|79"])]

def text : Json := .object
  [("alphabet", .object
    [("lowercase", .ofStrings
      ["a", "b", "c", "d", "e", "f", "g", "h", "i", "j", "k", "l", "m", "n", "o", "p", "q", "r",
       "s", "t", "u", "v", "w", "x", "y", "z"]),
     ("uppercase", .ofStrings
      ["A", "B", "C", "D", "E", "F", "G", "H", "I", "J", "K", "L", "M", "N", "O", "P", "Q", "R",
       "S", "T", "U", "V", "W", "X", "Y", "Z"])]),
   ("level", .ofStrings
    ["low", "moderate", "high", "critical"]),
   ("text", .ofStrings
    ["The quick brown fox jumps over the lazy dog.",
     "Every program is a model of some part of the world.",
     "Ports are created with the built-in function open_port.",
     "Simple things should be simple, complex things should be possible.",
     "Make it work, make it right, make it fast.", "Data outlives the code that produced it.",
     "A good test fails for exactly one reason.",
     "Premature optimization is the root of all evil."]),
   ("words", .ofStrings
    ["anchor", "binary", "cluster", "delta", "engine", "fabric", "gateway", "harbor", "index",
     "kernel", "lattice", "module", "network", "orbit", "pointer", "query", "runtime", "signal",
     "token", "vector"]),
   ("quotes", .ofStrings
    ["Talk is cheap. Show me the code.", "Simplicity is prerequisite for reliability.",
     "Programs must be written for people to read."]),
   ("color", .ofStrings
    ["Amber", "Blue", "Crimson", "Green", "Indigo", "Orange", "Purple", "Teal", "Yellow"]),
   ("answers", .ofStrings
    ["Yes", "No", "Maybe"]),
   ("swear_words", .ofStrings
    ["Blimey", "Bloody", "Crap", "Damn", "Darn", "Heck"])]

end SampleData.Assets.English

import SampleData.Json.Value

/-! # German data

The shipped bundles of the locale `de`, laid out in the order in which their texts show the fields.
-/
namespace SampleData.Assets.German

def address : Json := .object
  [("street", .object
    [("name", .ofStrings
      ["Bahnhof", "Berg", "Birken", "Garten", "Kirch", "Linden", "Markt", "Schul", "See", "Wald"]),
     ("suffix", .ofStrings
      ["straße", "weg", "gasse", "platz", "allee"])]),
   ("address_fmt", .str "\x7bst_name\x7d\x7bst_sfx\x7d \x7bst_num\x7d"),
   ("state", .object
    [("name", .ofStrings
      ["Baden-Württemberg", "Bayern", "Berlin", "Brandenburg", "Hamburg", "Hessen",
       "Niedersachsen", "Sachsen"]),
     ("abbr", .ofStrings
      ["BW", "BY", "BE", "BB", "HH", "HE", "NI", "SN"])]),
   ("postal_code_fmt", .str "#####"),
   ("country", .object
    [("name", .ofStrings
      ["Dänemark", "Deutschland", "Frankreich", "Italien", "Österreich", "Polen", "Schweiz",
       "Spanien"])]),
   ("city", .ofStrings
    ["Berlin", "Bremen", "Dresden", "Frankfurt am Main", "Hamburg", "Köln", "Leipzig", "München",
     "Stuttgart"])]

def business : Json := .object
  [("company", .object
    [("type", .object
      [("title", .ofStrings
        ["Aktiengesellschaft", "Gesellschaft mit beschränkter Haftung", "Kommanditgesellschaft"]),
       ("abbr", .ofStrings
        ["AG", "GmbH", "KG"])]),
     ("name", .ofStrings
      ["Adler", "Bergmann", "Edelweiss", "Falkenstein", "Nordlicht", "Sonnenberg", "Weißhaupt"])])]

def datetime : Json := .object
  [("day", .object
    [("name", .ofStrings
      ["Montag", "Dienstag", "Mittwoch", "Donnerstag", "Freitag", "Samstag", "Sonntag"]),
     ("abbr", .ofStrings
      ["Mo", "Di", "Mi", "Do", "Fr", "Sa", "So"])]),
   ("month", .object
    [("name", .ofStrings
      ["Januar", "Februar", "März", "April", "Mai", "Juni", "Juli", "August", "September",
       "Oktober", "November", "Dezember"]),
     ("abbr", .ofStrings
      ["Jan", "Feb", "Mär", "Apr", "Mai", "Jun", "Jul", "Aug", "Sep", "Okt", "Nov", "Dez"])]),
   ("periodicity", .ofStrings
    ["Nie", "Einmal", "Täglich", "Wöchentlich", "Monatlich", "Jährlich"]),
   ("formats", .object
    [("date", .str "%d.%m.%Y"),
     ("time", .str "%H:%M:%S")])]

def food : Json := .object
  [("vegetables", .ofStrings
    ["Blumenkohl", "Gurke", "Karotte", "Kartoffel", "Kohl", "Spargel", "Zwiebel"]),
   ("fruits", .ofStrings
    ["Apfel", "Birne", "Erdbeere", "Kirsche", "Pflaume", "Zitrone"]),
   ("dishes", .ofStrings
    ["Bratwurst", "Kartoffelsalat", "Käsespätzle", "Sauerbraten", "Schnitzel"]),
   ("spices", .ofStrings
    ["Kümmel", "Majoran", "Muskat", "Petersilie", "Schnittlauch"]),
   ("drinks", .ofStrings
    ["Apfelschorle", "Bier", "Kaffee", "Tee", "Wasser"])]

def personal : Json := .object
  [("names", .object
    [("female", .ofStrings
      ["Anna", "Emma", "Greta", "Hanna", "Lena", "Marie", "Sophie", "Ursula"]),
     ("male", .ofStrings
      ["Felix", "Hans", "Jonas", "Karl", "Lukas", "Max", "Paul", "Stefan"])]),
   ("surnames", .ofStrings
    ["Bauer", "Becker", "Fischer", "Hoffmann", "Koch", "Meyer", "Müller", "Schmidt", "Schneider",
     "Wagner", "Weber"]),
   ("title", .object
    [("female", .object
      [("typical", .ofStrings
        ["Frau"]),
       ("academic", .ofStrings
        ["Dr.", "Prof.", "Dipl.-Ing."])]),
     ("male", .object
      [("typical", .ofStrings
        ["Herr"]),
       ("academic", .ofStrings
        ["Dr.", "Prof.", "Dipl.-Ing."])])]),
   ("gender", .ofStrings
    ["Weiblich", "Männlich"]),
   ("occupation", .ofStrings
    ["Apotheker", "Architekt", "Bäcker", "Ingenieur", "Journalist", "Lehrer", "Pilot",
     "Programmierer"]),
   ("nationality", .object
    [("female", .ofStrings
      ["Deutsche", "Französin", "Italienerin", "Österreicherin"]),
     ("male", .ofStrings
      ["Deutscher", "Franzose", "Italiener", "Österreicher"])]),
   ("university", .ofStrings
    ["Freie Universität Berlin", "LMU München", "Universität Heidelberg", "TU Dresden"]),
   ("academic_degree", .ofStrings
    ["Bachelor", "Master", "Diplom", "Doktor"]),
   ("language", .ofStrings
    ["Deutsch", "Englisch", "Französisch", "Italienisch", "Spanisch"]),
   ("telephone_fmt", .ofStrings
    ["+49-###-#######", "0###/#######"]),
   ("sexuality", .ofStrings
    ["Asexualität", "Bisexualität", "Heterosexualität", "Homosexualität", "Pansexualität"]),
   ("political_views", .ofStrings
    ["Anarchist", "Kommunist", "Konservativ", "Liberal", "Libertär", "Moderat", "Sozialist"]),
   ("worldview", .ofStrings
    ["Agnostizismus", "Atheismus", "Buddhismus", "Christentum", "Deismus", "Hinduismus", "Islam",
     "Judentum", "Pantheismus"]),
   ("views_on", .ofStrings
    ["Kompromissbereit", "Negativ", "Neutral", "Positiv", "Stark negativ"]),
   ("favorite_movie", .ofStrings
    ["Das Boot", "Der Himmel über Berlin", "Good Bye, Lenin!", "Lola rennt",
     "M – Eine Stadt sucht einen Mörder", "Metropolis", "Nosferatu"])]

def science : Json := .object
  [("article", .ofStrings
    ["Atomphysik", "Zellbiologie", "Graphentheorie", "Zahlentheorie"]),
   ("scientist", .ofStrings
    ["Albert Einstein", "Carl Friedrich Gauß", "Max Planck", "Emmy Noether", "Werner Heisenberg"]),
   ("element", .ofStrings
    ["Wasserstoff|H|1", "Helium|He|2", "Kohlenstoff|C|6", "Stickstoff|N|7", "Sauerstoff|O|8",
     "Eisen|Fe|26", "Kupfer|Cu|29", "Gold|Au|79"])]

def text : Json := .object
  [("alphabet", .object
    [("lowercase", .ofStrings
      ["a", "b", "c", "d", "e", "f", "g", "h", "i", "j", "k", "l", "m", "n", "o", "p", "q", "r",
       "s", "t", "u", "v", "w", "x", "y", "z", "ä", "ö", "ü", "ß"]),
     ("uppercase", .ofStrings
      ["A", "B", "C", "D", "E", "F", "G", "H", "I", "J", "K", "L", "M", "N", "O", "P", "Q", "R",
       "S", "T", "U", "V", "W", "X", "Y", "Z", "Ä", "Ö", "Ü"])]),
   ("level", .ofStrings
    ["niedrig", "mäßig", "hoch", "kritisch"]),
   ("text", .ofStrings
    ["Jedes Programm ist ein Modell eines Teils der Welt.",
     "Daten leben länger als der Code, der sie erzeugt hat.",
     "Einfache Dinge sollten einfach sein.", "Ein guter Test schlägt aus genau einem Grund fehl."]),
   ("words", .ofStrings
    ["Anker", "Daten", "Faden", "Kanal", "Knoten", "Modul", "Puffer", "Signal", "Strom", "Zeiger"]),
   ("quotes", .ofStrings
    ["Ordnung ist das halbe Leben.", "Übung macht den Meister."]),
   ("color", .ofStrings
    ["Blau", "Gelb", "Grün", "Lila", "Orange", "Rot", "Weiß"]),
   ("answers", .ofStrings
    ["Ja", "Nein", "Vielleicht"]),
   ("swear_words", .ofStrings
    ["Mist", "Verdammt", "Scheibenkleister", "Mensch", "Donnerwetter"])]

end SampleData.Assets.German

import SampleData.Json.Value

/-! # Russian data

The shipped bundles of the locale `ru`, laid out in the order in which their texts show the fields.
-/
namespace SampleData.Assets.Russian

def address : Json := .object
  [("street", .object
    [("name", .ofStrings
      ["Арбат", "Гагарина", "Ленина", "Мира", "Пушкина", "Садовая", "Советская", "Тверская",
       "Чехова", "Школьная"]),
     ("suffix", .ofStrings
      ["ул.", "пер.", "пр.", "бул.", "ш."])]),
   ("address_fmt", .str "\x7bst_sfx\x7d \x7bst_name\x7d, д. \x7bst_num\x7d"),
   ("state", .object
    [("name", .ofStrings
      ["Амурская область", "Кировская область", "Московская область", "Новгородская область",
       "Омская область", "Тверская область"]),
     ("abbr", .ofStrings
      ["AMU", "KIR", "MOS", "NGR", "OMS", "TVE"])]),
   ("postal_code_fmt", .str "######"),
   ("country", .object
    [("name", .ofStrings
      ["Австралия", "Бразилия", "Германия", "Испания", "Италия", "Канада", "Китай", "Россия",
       "Франция", "Япония"])]),
   ("city", .ofStrings
    ["Владивосток", "Екатеринбург", "Казань", "Москва", "Новосибирск", "Омск", "Самара",
     "Санкт-Петербург", "Тверь"])]

def business : Json := .object
  [("company", .object
    [("type", .object
      [("title", .ofStrings
        ["Акционерное общество", "Общество с ограниченной ответственностью",
         "Публичное акционерное общество"]),
       ("abbr", .ofStrings
        ["АО", "ООО", "ПАО"])]),
     ("name", .ofStrings
      ["Альфа", "Вектор", "Гранит", "Заря", "Меридиан", "Орбита", "Полюс", "Север"])])]

def datetime : Json := .object
  [("day", .object
    [("name", .ofStrings
      ["Понедельник", "Вторник", "Среда", "Четверг", "Пятница", "Суббота", "Воскресенье"]),
     ("abbr", .ofStrings
      ["Пн", "Вт", "Ср", "Чт", "Пт", "Сб", "Вс"])]),
   ("month", .object
    [("name", .ofStrings
      ["Январь", "Февраль", "Март", "Апрель", "Май", "Июнь", "Июль", "Август", "Сентябрь",
       "Октябрь", "Ноябрь", "Декабрь"]),
     ("abbr", .ofStrings
      ["Янв", "Фев", "Мар", "Апр", "Май", "Июн", "Июл", "Авг", "Сен", "Окт", "Ноя", "Дек"])]),
   ("periodicity", .ofStrings
    ["Никогда", "Однажды", "Ежедневно", "Еженедельно", "Ежемесячно", "Ежегодно"]),
   ("formats", .object
    [("date", .str "%d.%m.%Y"),
     ("time", .str "%H:%M:%S")])]

def food : Json := .object
  [("vegetables", .ofStrings
    ["Капуста", "Картофель", "Морковь", "Огурец", "Помидор", "Свёкла", "Лук"]),
   ("fruits", .ofStrings
    ["Апельсин", "Банан", "Груша", "Слива", "Яблоко", "Вишня"]),
   ("dishes", .ofStrings
    ["Борщ", "Пельмени", "Блины", "Щи", "Окрошка", "Сырники"]),
   ("spices", .ofStrings
    ["Укроп", "Петрушка", "Тмин", "Гвоздика", "Корица"]),
   ("drinks", .ofStrings
    ["Квас", "Компот", "Морс", "Чай", "Кофе"])]

def personal : Json := .object
  [("names", .object
    [("female", .ofStrings
      ["Анна", "Дарья", "Екатерина", "Елена", "Ирина", "Мария", "Наталья", "Ольга", "Светлана",
       "Татьяна"]),
     ("male", .ofStrings
      ["Алексей", "Андрей", "Борис", "Дмитрий", "Иван", "Михаил", "Николай", "Павел", "Сергей",
       "Юрий"])]),
   ("surnames", .object
    [("female", .ofStrings
      ["Иванова", "Кузнецова", "Морозова", "Петрова", "Попова", "Смирнова", "Соколова", "Волкова"]),
     ("male", .ofStrings
      ["Иванов", "Кузнецов", "Морозов", "Петров", "Попов", "Смирнов", "Соколов", "Волков"])]),
   ("title", .object
    [("female", .object
      [("typical", .ofStrings
        ["г-жа"]),
       ("academic", .ofStrings
        ["к.н.", "д.н.", "проф."])]),
     ("male", .object
      [("typical", .ofStrings
        ["г-н"]),
       ("academic", .ofStrings
        ["к.н.", "д.н.", "проф."])])]),
   ("gender", .ofStrings
    ["Женский", "Мужской"]),
   ("occupation", .ofStrings
    ["Бухгалтер", "Врач", "Инженер", "Журналист", "Программист", "Пилот", "Учитель", "Юрист"]),
   ("nationality", .object
    [("female", .ofStrings
      ["Русская", "Украинка", "Татарка", "Немка"]),
     ("male", .ofStrings
      ["Русский", "Украинец", "Татарин", "Немец"])]),
   ("university", .ofStrings
    ["МГУ", "СПбГУ", "МФТИ", "НГУ", "ВШЭ"]),
   ("academic_degree", .ofStrings
    ["Бакалавр", "Магистр", "Кандидат наук", "Доктор наук"]),
   ("language", .ofStrings
    ["Английский", "Испанский", "Китайский", "Немецкий", "Русский", "Французский"]),
   ("telephone_fmt", .ofStrings
    ["+7-(###)-###-##-##", "8-(###)-###-##-##"]),
   ("sexuality", .ofStrings
    ["Асексуальность", "Бисексуальность", "Гетеросексуальность", "Гомосексуальность",
     "Пансексуальность"]),
   ("political_views", .ofStrings
    ["Анархист", "Коммунист", "Консерватор", "Либерал", "Либертарианец", "Умеренный", "Социалист"]),
   ("worldview", .ofStrings
    ["Агностицизм", "Атеизм", "Буддизм", "Христианство", "Деизм", "Индуизм", "Ислам", "Иудаизм",
     "Пантеизм"]),
   ("views_on", .ofStrings
    ["Компромиссные", "Негативные", "Нейтральные", "Позитивные", "Резко негативные"]),
   ("favorite_movie", .ofStrings
    ["Брат", "Иван Васильевич меняет профессию", "Ирония судьбы", "Москва слезам не верит",
     "Солярис", "Сталкер", "Бриллиантовая рука"])]

def science : Json := .object
  [("article", .ofStrings
    ["Атомная физика", "Клеточная биология", "Теория графов", "Теория чисел"]),
   ("scientist", .ofStrings
    ["Дмитрий Менделеев", "Михаил Ломоносов", "Сергей Королёв", "Софья Ковалевская", "Иван Павлов"]),
   ("element", .ofStrings
    ["Водород|H|1", "Гелий|He|2", "Углерод|C|6", "Азот|N|7", "Кислород|O|8", "Железо|Fe|26",
     "Медь|Cu|29", "Золото|Au|79"])]

def text : Json := .object
  [("alphabet", .object
    [("lowercase", .ofStrings
      ["а", "б", "в", "г", "д", "е", "ё", "ж", "з", "и", "й", "к", "л", "м", "н", "о", "п", "р",
       "с", "т", "у", "ф", "х", "ц", "ч", "ш", "щ", "ъ", "ы", "ь", "э", "ю", "я"]),
     ("uppercase", .ofStrings
      ["А", "Б", "В", "Г", "Д", "Е", "Ё", "Ж", "З", "И", "Й", "К", "Л", "М", "Н", "О", "П", "Р",
       "С", "Т", "У", "Ф", "Х", "Ц", "Ч", "Ш", "Щ", "Ъ", "Ы", "Ь", "Э", "Ю", "Я"])]),
   ("level", .ofStrings
    ["низкий", "умеренный", "высокий", "критический"]),
   ("text", .ofStrings
    ["Программа есть модель некоторой части мира.",
     "Сначала сделай, чтобы работало, потом сделай правильно.",
     "Данные живут дольше кода, который их создал.", "Простые вещи должны быть простыми.",
     "Хороший тест падает ровно по одной причине."]),
   ("words", .ofStrings
    ["адрес", "буфер", "ветка", "граф", "запрос", "индекс", "канал", "модуль", "поток", "сигнал",
     "узел", "ядро"]),
   ("quotes", .ofStrings
    ["Краткость — сестра таланта.", "Тише едешь — дальше будешь."]),
   ("color", .ofStrings
    ["Белый", "Жёлтый", "Зелёный", "Красный", "Синий", "Фиолетовый"]),
   ("answers", .ofStrings
    ["Да", "Нет", "Возможно"]),
   ("swear_words", .ofStrings
    ["Блин", "Чёрт", "Ёлки-палки", "Зараза", "Проклятье"])]

end SampleData.Assets.Russian
